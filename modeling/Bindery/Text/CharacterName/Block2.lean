/- Character names, block 2: a row `=hex` sets the code point of the next name, and every other
   row names one character and moves on. The digit that starts a name says how many words it
   shares with the name before. -/
namespace Bindery.Text.CharacterName

def block2 : String :=
  "=ebd
0LAO SEMIVOWEL SIGN NYO
=ec0
1VOWEL SIGN E
3EI
3O
3AY
3AI
=ec6
1KO LA
=ec8
1TONE MAI EK
3THO
3TI
3CATAWA
1CANCELLATION MARK
1NIGGAHITA
=ed0
1DIGIT ZERO
2ONE
2TWO
2THREE
2FOUR
2FIVE
2SIX
2SEVEN
2EIGHT
2NINE
=edc
1HO NO
2MO
1LETTER KHMU GO
3NYO
=f00
0TIBETAN SYLLABLE OM
1MARK GTER YIG MGO TRUNCATED A
5-UM RNAM BCAD MA
6GTER TSHEG MA
2INITIAL YIG MGO MDUN MA
2CLOSING YIG MGO SGAB MA
2CARET YIG MGO PHUR SHAD MA
2YIG MGO TSHEG SHAD MA
2SBRUL SHAD
2BSKUR YIG MGO
2BKA- SHOG YIG MGO
2INTERSYLLABIC TSHEG
2DELIMITER TSHEG BSTAR
2SHAD
2NYIS SHAD
2TSHEG SHAD
2NYIS TSHEG SHAD
2RIN CHEN SPUNGS SHAD
2RGYA GRAM SHAD
2CARET -DZUD RTAGS ME LONG CAN
2GTER TSHEG
1LOGOTYPE SIGN CHAD RTAGS
3LHAG RTAGS
1ASTROLOGICAL SIGN SGRA GCAN -CHAR RTAGS
3-KHYUD PA
3SDONG TSHUGS
1SIGN RDEL DKAR GCIG
4GNYIS
4GSUM
3NAG GCIG
4GNYIS
3DKAR RDEL NAG
1DIGIT ZERO
2ONE
2TWO
2THREE
2FOUR
2FIVE
2SIX
2SEVEN
2EIGHT
2NINE
2HALF ONE
3TWO
3THREE
3FOUR
3FIVE
3SIX
3SEVEN
3EIGHT
3NINE
3ZERO
1MARK BSDUS RTAGS
2NGAS BZUNG NYI ZLA
2CARET -DZUD RTAGS BZHI MIG CAN
2NGAS BZUNG SGOR RTAGS
2CHE MGO
2TSA -PHRU
2GUG RTAGS GYON
4GYAS
2ANG KHANG GYON
4GYAS
1SIGN YAR TSHES
2MAR TSHES
1LETTER KA
2KHA
2GA
2GHA
2NGA
2CA
2CHA
2JA
=f49
2NYA
2TTA
2TTHA
2DDA
2DDHA
2NNA
2TA
2THA
2DA
2DHA
2NA
2PA
2PHA
2BA
2BHA
2MA
2TSA
2TSHA
2DZA
2DZHA
2WA
2ZHA
2ZA
2-A
2YA
2RA
2LA
2SHA
2SSA
2SA
2HA
2A
2KSSA
2FIXED-FORM RA
2KKA
2RRA
=f71
1VOWEL SIGN AA
3I
3II
3U
3UU
3VOCALIC R
4RR
4L
4LL
3E
3EE
3O
3OO
1SIGN RJES SU NGA RO
2RNAM BCAD
1VOWEL SIGN REVERSED I
4II
1SIGN NYI ZLA NAA DA
2SNA LDAN
1MARK HALANTA
2PALUTA
1SIGN LCI RTAGS
2YANG RTAGS
2LCE TSA CAN
2MCHU CAN
2GRU CAN RGYINGS
3MED RGYINGS
2INVERTED MCHU CAN
1SUBJOINED SIGN LCE TSA CAN
3MCHU CAN
3INVERTED MCHU CAN
2LETTER KA
3KHA
3GA
3GHA
3NGA
3CA
3CHA
3JA
=f99
3NYA
3TTA
3TTHA
3DDA
3DDHA
3NNA
3TA
3THA
3DA
3DHA
3NA
3PA
3PHA
3BA
3BHA
3MA
3TSA
3TSHA
3DZA
3DZHA
3WA
3ZHA
3ZA
3-A
3YA
3RA
3LA
3SHA
3SSA
3SA
3HA
3A
3KSSA
3FIXED-FORM WA
4YA
4RA
=fbe
1KU RU KHA
4BZHI MIG CAN
1CANTILLATION SIGN HEAVY BEAT
3LIGHT BEAT
3CANG TE-U
3SBUB -CHAL
1SYMBOL DRIL BU
2RDO RJE
2PADMA GDAN
2RDO RJE RGYA GRAM
2PHUR PA
2NOR BU
4NYIS -KHYIL
4GSUM -KHYIL
4BZHI -KHYIL
=fce
1SIGN RDEL NAG RDEL DKAR
4GSUM
1MARK BSKA- SHOG GI MGO RGYAN
2MNYAM YIG GI MGO RGYAN
2NYIS TSHEG
2INITIAL BRDA RNYING YIG MGO MDUN MA
2CLOSING BRDA RNYING YIG MGO SGAB MA
0RIGHT-FACING SVASTI SIGN
0LEFT-FACING SVASTI SIGN
0RIGHT-FACING SVASTI SIGN WITH DOTS
0LEFT-FACING SVASTI SIGN WITH DOTS
0TIBETAN MARK LEADING MCHAN RTAGS
2TRAILING MCHAN RTAGS
=1000
0MYANMAR LETTER KA
2KHA
2GA
2GHA
2NGA
2CA
2CHA
2JA
2JHA
2NYA
2NNYA
2TTA
2TTHA
2DDA
2DDHA
2NNA
2TA
2THA
2DA
2DHA
2NA
2PA
2PHA
2BA
2BHA
2MA
2YA
2RA
2LA
2WA
2SA
2HA
2LLA
2A
2SHAN A
2I
2II
2U
2UU
2E
2MON E
2O
2AU
1VOWEL SIGN TALL AA
3AA
3I
3II
3U
3UU
3E
3AI
3MON II
4O
3E ABOVE
1SIGN ANUSVARA
2DOT BELOW
2VISARGA
2VIRAMA
2ASAT
1CONSONANT SIGN MEDIAL YA
4RA
4WA
4HA
1LETTER GREAT SA
1DIGIT ZERO
2ONE
2TWO
2THREE
2FOUR
2FIVE
2SIX
2SEVEN
2EIGHT
2NINE
1SIGN LITTLE SECTION
2SECTION
1SYMBOL LOCATIVE
2COMPLETED
2AFOREMENTIONED
2GENITIVE
1LETTER SHA
2SSA
2VOCALIC R
3RR
3L
3LL
1VOWEL SIGN VOCALIC R
4RR
4L
4LL
1LETTER MON NGA
3JHA
3BBA
3BBE
1CONSONANT SIGN MON MEDIAL NA
5MA
5LA
1LETTER SGAW KAREN SHA
1VOWEL SIGN SGAW KAREN EU
1TONE MARK SGAW KAREN HATHI
5KE PHO
1LETTER WESTERN PWO KAREN THA
5PWA
1VOWEL SIGN WESTERN PWO KAREN EU
6UE
1SIGN WESTERN PWO KAREN TONE-1
5TONE-2
5TONE-3
5TONE-4
5TONE-5
1LETTER EASTERN PWO KAREN NNA
5YWA
5GHWA
1VOWEL SIGN GEBA KAREN I
3KAYAH OE
4U
4EE
1LETTER SHAN KA
3KHA
3GA
3CA
3ZA
3NYA
3DA
3NA
3PHA
3FA
3BA
3THA
3HA
1CONSONANT SIGN SHAN MEDIAL WA
1VOWEL SIGN SHAN AA
4E
5ABOVE
4FINAL Y
1SIGN SHAN TONE-2
3TONE-3
3TONE-5
3TONE-6
3COUNCIL TONE-2
4TONE-3
4EMPHATIC TONE
1LETTER RUMAI PALAUNG FA
1SIGN RUMAI PALAUNG TONE-5
1SHAN DIGIT ZERO
3ONE
3TWO
3THREE
3FOUR
3FIVE
3SIX
3SEVEN
3EIGHT
3NINE
1SIGN KHAMTI TONE-1
3TONE-3
1VOWEL SIGN AITON A
4AI
1SYMBOL SHAN ONE
3EXCLAMATION
0GEORGIAN CAPITAL LETTER AN
3BAN
3GAN
3DON
3EN
3VIN
3ZEN
3TAN
3IN
3KAN
3LAS
3MAN
3NAR
3ON
3PAR
3ZHAR
3RAE
3SAN
3TAR
3UN
3PHAR
3KHAR
3GHAN
3QAR
3SHIN
3CHIN
3CAN
3JIL
3CIL
3CHAR
3XAN
3JHAN
3HAE
3HE
3HIE
3WE
3HAR
3HOE
=10c7
3YN
=10cd
3AEN
=10d0
1LETTER AN
2BAN
2GAN
2DON
2EN
2VIN
2ZEN
2TAN
2IN
2KAN
2LAS
2MAN
2NAR
2ON
2PAR
2ZHAR
2RAE
2SAN
2TAR
2UN
2PHAR
2KHAR
2GHAN
2QAR
2SHIN
2CHIN
2CAN
2JIL
2CIL
2CHAR
2XAN
2JHAN
2HAE
2HE
2HIE
2WE
2HAR
2HOE
2FI
2YN
2ELIFI
2TURNED GAN
2AIN
1PARAGRAPH SEPARATOR
0MODIFIER LETTER GEORGIAN NAR
0GEORGIAN LETTER AEN
2HARD SIGN
2LABIAL SIGN
0HANGUL CHOSEONG KIYEOK
2SSANGKIYEOK
2NIEUN
2TIKEUT
2SSANGTIKEUT
2RIEUL
2MIEUM
2PIEUP
2SSANGPIEUP
2SIOS
2SSANGSIOS
2IEUNG
2CIEUC
2SSANGCIEUC
2CHIEUCH
2KHIEUKH
2THIEUTH
2PHIEUPH
2HIEUH
2NIEUN-KIYEOK
2SSANGNIEUN
2NIEUN-TIKEUT
2NIEUN-PIEUP
2TIKEUT-KIYEOK
2RIEUL-NIEUN
2SSANGRIEUL
2RIEUL-HIEUH
2KAPYEOUNRIEUL
2MIEUM-PIEUP
2KAPYEOUNMIEUM
2PIEUP-KIYEOK
2PIEUP-NIEUN
2PIEUP-TIKEUT
2PIEUP-SIOS
2PIEUP-SIOS-KIYEOK
2PIEUP-SIOS-TIKEUT
2PIEUP-SIOS-PIEUP
2PIEUP-SSANGSIOS
2PIEUP-SIOS-CIEUC
2PIEUP-CIEUC
2PIEUP-CHIEUCH
2PIEUP-THIEUTH
2PIEUP-PHIEUPH
2KAPYEOUNPIEUP
2KAPYEOUNSSANGPIEUP
2SIOS-KIYEOK
2SIOS-NIEUN
2SIOS-TIKEUT
2SIOS-RIEUL
2SIOS-MIEUM
2SIOS-PIEUP
2SIOS-PIEUP-KIYEOK
2SIOS-SSANGSIOS
2SIOS-IEUNG
2SIOS-CIEUC
2SIOS-CHIEUCH
2SIOS-KHIEUKH
2SIOS-THIEUTH
2SIOS-PHIEUPH
2SIOS-HIEUH
2CHITUEUMSIOS
2CHITUEUMSSANGSIOS
2CEONGCHIEUMSIOS
2CEONGCHIEUMSSANGSIOS
2PANSIOS
2IEUNG-KIYEOK
2IEUNG-TIKEUT
2IEUNG-MIEUM
2IEUNG-PIEUP
2IEUNG-SIOS
2IEUNG-PANSIOS
2SSANGIEUNG
2IEUNG-CIEUC
2IEUNG-CHIEUCH
2IEUNG-THIEUTH
2IEUNG-PHIEUPH
2YESIEUNG
2CIEUC-IEUNG
2CHITUEUMCIEUC
2CHITUEUMSSANGCIEUC
2CEONGCHIEUMCIEUC
2CEONGCHIEUMSSANGCIEUC
2CHIEUCH-KHIEUKH
2CHIEUCH-HIEUH
2CHITUEUMCHIEUCH
2CEONGCHIEUMCHIEUCH
2PHIEUPH-PIEUP
2KAPYEOUNPHIEUPH
2SSANGHIEUH
2YEORINHIEUH
2KIYEOK-TIKEUT
2NIEUN-SIOS
2NIEUN-CIEUC
2NIEUN-HIEUH
2TIKEUT-RIEUL
2FILLER
1JUNGSEONG FILLER
2A
2AE
2YA
2YAE
2EO
2E
2YEO
2YE
2O
2WA
2WAE
2OE
2YO
2U
2WEO
2WE
2WI
2YU
2EU
2YI
2I
2A-O
2A-U
2YA-O
2YA-YO
2EO-O
2EO-U
2EO-EU
2YEO-O
2YEO-U
2O-EO
2O-E
2O-YE
2O-O
2O-U
2YO-YA
2YO-YAE
2YO-YEO
2YO-O
2YO-I
2U-A
2U-AE
2U-EO-EU
2U-YE
2U-U
2YU-A
2YU-EO
2YU-E
2YU-YEO
2YU-YE
2YU-U
2YU-I
2EU-U
2EU-EU
2YI-U
2I-A
2I-YA
2I-O
2I-U
2I-EU
2I-ARAEA
2ARAEA
2ARAEA-EO
2ARAEA-U
2ARAEA-I
2SSANGARAEA
2A-EU
2YA-U
2YEO-YA
2O-YA
2O-YAE
1JONGSEONG KIYEOK
2SSANGKIYEOK
2KIYEOK-SIOS
2NIEUN
2NIEUN-CIEUC
2NIEUN-HIEUH
2TIKEUT
2RIEUL
2RIEUL-KIYEOK
2RIEUL-MIEUM
2RIEUL-PIEUP
2RIEUL-SIOS
2RIEUL-THIEUTH
2RIEUL-PHIEUPH
2RIEUL-HIEUH
2MIEUM
2PIEUP
2PIEUP-SIOS
2SIOS
2SSANGSIOS
2IEUNG
2CIEUC
2CHIEUCH
2KHIEUKH
2THIEUTH
2PHIEUPH
2HIEUH
2KIYEOK-RIEUL
2KIYEOK-SIOS-KIYEOK
2NIEUN-KIYEOK
2NIEUN-TIKEUT
2NIEUN-SIOS
2NIEUN-PANSIOS
2NIEUN-THIEUTH
2TIKEUT-KIYEOK
2TIKEUT-RIEUL
2RIEUL-KIYEOK-SIOS
2RIEUL-NIEUN
2RIEUL-TIKEUT
2RIEUL-TIKEUT-HIEUH
2SSANGRIEUL
2RIEUL-MIEUM-KIYEOK
2RIEUL-MIEUM-SIOS
2RIEUL-PIEUP-SIOS
2RIEUL-PIEUP-HIEUH
2RIEUL-KAPYEOUNPIEUP
2RIEUL-SSANGSIOS
2RIEUL-PANSIOS
2RIEUL-KHIEUKH
2RIEUL-YEORINHIEUH
2MIEUM-KIYEOK
2MIEUM-RIEUL
2MIEUM-PIEUP
2MIEUM-SIOS
2MIEUM-SSANGSIOS
2MIEUM-PANSIOS
2MIEUM-CHIEUCH
2MIEUM-HIEUH
2KAPYEOUNMIEUM
2PIEUP-RIEUL
2PIEUP-PHIEUPH
2PIEUP-HIEUH
2KAPYEOUNPIEUP
2SIOS-KIYEOK
2SIOS-TIKEUT
2SIOS-RIEUL
2SIOS-PIEUP
2PANSIOS
2IEUNG-KIYEOK
2IEUNG-SSANGKIYEOK
2SSANGIEUNG
2IEUNG-KHIEUKH
2YESIEUNG
2YESIEUNG-SIOS
2YESIEUNG-PANSIOS
2PHIEUPH-PIEUP
2KAPYEOUNPHIEUPH
2HIEUH-NIEUN
2HIEUH-RIEUL
2HIEUH-MIEUM
2HIEUH-PIEUP
2YEORINHIEUH
2KIYEOK-NIEUN
2KIYEOK-PIEUP
2KIYEOK-CHIEUCH
2KIYEOK-KHIEUKH
2KIYEOK-HIEUH
2SSANGNIEUN
0ETHIOPIC SYLLABLE HA
2HU
2HI
2HAA
2HEE
2HE
2HO
2HOA
2LA
2LU
2LI
2LAA
2LEE
2LE
2LO
2LWA
2HHA
2HHU
2HHI
2HHAA
2HHEE
2HHE
2HHO
2HHWA
2MA
2MU
2MI
2MAA
2MEE
2ME
2MO
2MWA
2SZA
2SZU
2SZI
2SZAA
2SZEE
2SZE
2SZO
2SZWA
2RA
2RU
2RI
2RAA
2REE
2RE
2RO
2RWA
2SA
2SU
2SI
2SAA
2SEE
2SE
2SO
2SWA
2SHA
2SHU
2SHI
2SHAA
2SHEE
2SHE
2SHO
2SHWA
2QA
2QU
2QI
2QAA
2QEE
2QE
2QO
2QOA
2QWA
=124a
2QWI
2QWAA
2QWEE
2QWE
=1250
2QHA
2QHU
2QHI
2QHAA
2QHEE
2QHE
2QHO
=1258
2QHWA
=125a
2QHWI
2QHWAA
2QHWEE
2QHWE
=1260
2BA
2BU
2BI
2BAA
2BEE
2BE
2BO
2BWA
2VA
2VU
2VI
2VAA
2VEE
2VE
2VO
2VWA
2TA
2TU
2TI
2TAA
2TEE
2TE
2TO
2TWA
2CA
2CU
2CI
2CAA
2CEE
2CE
2CO
2CWA
2XA
2XU
2XI
2XAA
2XEE
2XE
2XO
2XOA
2XWA
=128a
2XWI
2XWAA
2XWEE
2XWE
=1290
2NA
2NU
2NI
2NAA
2NEE
2NE
2NO
2NWA
2NYA
2NYU
2NYI
2NYAA
2NYEE
2NYE
2NYO
2NYWA
2GLOTTAL A
3U
3I
3AA
3EE
3E
3O
3WA
2KA
2KU
2KI
2KAA
2KEE
2KE
2KO
2KOA
2KWA
=12b2
2KWI
2KWAA
2KWEE
2KWE
=12b8
2KXA
2KXU
2KXI
2KXAA
2KXEE
2KXE
2KXO
=12c0
2KXWA
=12c2
2KXWI
2KXWAA
2KXWEE
2KXWE
=12c8
2WA
2WU
2WI
2WAA
2WEE
2WE
2WO
2WOA
2PHARYNGEAL A
3U
3I
3AA
3EE
3E
3O
=12d8
2ZA
2ZU
2ZI
2ZAA
2ZEE
2ZE
2ZO
2ZWA
2ZHA
2ZHU
2ZHI
2ZHAA
2ZHEE
2ZHE
2ZHO
2ZHWA
2YA
2YU
2YI
2YAA
2YEE
2YE
2YO
2YOA
2DA
2DU
2DI
2DAA
2DEE
2DE
2DO
2DWA
2DDA
2DDU
2DDI
2DDAA
2DDEE
2DDE
2DDO
2DDWA
2JA
2JU
2JI
2JAA
2JEE
2JE
2JO
2JWA
2GA
2GU
2GI
2GAA
2GEE
2GE
2GO
2GOA
2GWA
=1312
2GWI
2GWAA
2GWEE
2GWE
=1318
2GGA
2GGU
2GGI
2GGAA
2GGEE
2GGE
2GGO
2GGWAA
2THA
2THU
2THI
2THAA
2THEE
2THE
2THO
2THWA
2CHA
2CHU
2CHI
2CHAA
2CHEE
2CHE
2CHO
2CHWA
2PHA
2PHU
2PHI
2PHAA
2PHEE
2PHE
2PHO
2PHWA
2TSA
2TSU
2TSI
2TSAA
2TSEE
2TSE
2TSO
2TSWA
2TZA
2TZU
2TZI
2TZAA
2TZEE
2TZE
2TZO
2TZOA
2FA
2FU
2FI
2FAA
2FEE
2FE
2FO
2FWA
2PA
2PU
2PI
2PAA
2PEE
2PE
2PO
2PWA
2RYA
2MYA
2FYA
=135d
1COMBINING GEMINATION AND VOWEL LENGTH MARK
2VOWEL LENGTH MARK
2GEMINATION MARK
1SECTION MARK
1WORDSPACE
1FULL STOP
1COMMA
1SEMICOLON
1COLON
1PREFACE COLON
1QUESTION MARK
1PARAGRAPH SEPARATOR
1DIGIT ONE
2TWO
2THREE
2FOUR
2FIVE
2SIX
2SEVEN
2EIGHT
2NINE
1NUMBER TEN
2TWENTY
2THIRTY
2FORTY
2FIFTY
2SIXTY
2SEVENTY
2EIGHTY
2NINETY
2HUNDRED
2TEN THOUSAND
=1380
1SYLLABLE SEBATBEIT MWA
2MWI
2MWEE
2MWE
2SEBATBEIT BWA
2BWI
2BWEE
2BWE
2SEBATBEIT FWA
2FWI
2FWEE
2FWE
2SEBATBEIT PWA
2PWI
2PWEE
2PWE
1TONAL MARK YIZET
3DERET
3RIKRIK
3SHORT RIKRIK
3DIFAT
3KENAT
3CHIRET
3HIDET
3DERET-HIDET
3KURT
=13a0
0CHEROKEE LETTER A
2E
2I
2O
2U
2V
2GA
2KA
2GE
2GI
2GO
2GU
2GV
2HA
2HE
2HI
2HO
2HU
2HV
2LA
2LE
2LI
2LO
2LU
2LV
2MA
2ME
2MI
2MO
2MU
2NA
2HNA
2NAH
2NE
2NI
2NO
2NU
2NV
2QUA
2QUE
2QUI
2QUO
2QUU
2QUV
2SA
2S
2SE
2SI
2SO
2SU
2SV
2DA
2TA
2DE
2TE
2DI
2TI
2DO
2DU
2DV
2DLA
2TLA
2TLE
2TLI
2TLO
2TLU
2TLV
2TSA
2TSE
2TSI
2TSO
2TSU
2TSV
2WA
2WE
2WI
2WO
2WU
2WV
2YA
2YE
2YI
2YO
2YU
2YV
2MV
=13f8
1SMALL LETTER YE
3YI
3YO
3YU
3YV
3MV
=1400
0CANADIAN SYLLABICS HYPHEN
2E
2AAI
2I
2II
2O
2OO
2Y-CREE OO
2CARRIER EE
3I
2A
2AA
2WE
2WEST-CREE WE
2WI
2WEST-CREE WI
2WII
2WEST-CREE WII
2WO
2WEST-CREE WO
2WOO
2WEST-CREE WOO
2NASKAPI WOO
2WA
2WEST-CREE WA
2WAA
2WEST-CREE WAA
2NASKAPI WAA
2AI
2Y-CREE W
2GLOTTAL STOP
2FINAL ACUTE
3GRAVE
3BOTTOM HALF RING
3TOP HALF RING
3RIGHT HALF RING
3RING
3DOUBLE ACUTE
4SHORT VERTICAL STROKES
3MIDDLE DOT
3SHORT HORIZONTAL STROKE
3PLUS
3DOWN TACK
2EN
2IN
2ON
2AN
2PE
2PAAI
2PI
2PII
2PO
2POO
2Y-CREE POO
2CARRIER HEE
3HI
2PA
2PAA
2PWE
2WEST-CREE PWE
2PWI
2WEST-CREE PWI
2PWII
2WEST-CREE PWII
2PWO
2WEST-CREE PWO
2PWOO
2WEST-CREE PWOO
2PWA
2WEST-CREE PWA
2PWAA
2WEST-CREE PWAA
2Y-CREE PWAA
2P
2WEST-CREE P
2CARRIER H
2TE
2TAAI
2TI
2TII
2TO
2TOO
2Y-CREE TOO
2CARRIER DEE
3DI
2TA
2TAA
2TWE
2WEST-CREE TWE
2TWI
2WEST-CREE TWI
2TWII
2WEST-CREE TWII
2TWO
2WEST-CREE TWO
2TWOO
2WEST-CREE TWOO
2TWA
2WEST-CREE TWA
2TWAA
2WEST-CREE TWAA
2NASKAPI TWAA
2T
2TTE
2TTI
2TTO
2TTA
2KE
2KAAI
2KI
2KII
2KO
2KOO
2Y-CREE KOO
2KA
2KAA
2KWE
2WEST-CREE KWE
2KWI
2WEST-CREE KWI
2KWII
2WEST-CREE KWII
2KWO
2WEST-CREE KWO
2KWOO
2WEST-CREE KWOO
2KWA
2WEST-CREE KWA
2KWAA
2WEST-CREE KWAA
2NASKAPI KWAA
2K
2KW
2SOUTH-SLAVEY KEH
3KIH
3KOH
3KAH
2CE
2CAAI
2CI
2CII
2CO
2COO
2Y-CREE COO
2CA
2CAA
2CWE
2WEST-CREE CWE
2CWI
2WEST-CREE CWI
2CWII
2WEST-CREE CWII
2CWO
2WEST-CREE CWO
2CWOO
2WEST-CREE CWOO
2CWA
2WEST-CREE CWA
2CWAA
2WEST-CREE CWAA
2NASKAPI CWAA
2C
2SAYISI TH
2ME
2MAAI
2MI
2MII
2MO
2MOO
2Y-CREE MOO
2MA
2MAA
2MWE
2WEST-CREE MWE
2MWI
2WEST-CREE MWI
2MWII
2WEST-CREE MWII
2MWO
2WEST-CREE MWO
2MWOO
2WEST-CREE MWOO
2MWA
2WEST-CREE MWA
2MWAA
2WEST-CREE MWAA
2NASKAPI MWAA
2M
2WEST-CREE M
2MH
2ATHAPASCAN M
2SAYISI M
2NE
2NAAI
2NI
2NII
2NO
2NOO
2Y-CREE NOO
2NA
2NAA
2NWE
2WEST-CREE NWE
2NWA
2WEST-CREE NWA
2NWAA
2WEST-CREE NWAA
2NASKAPI NWAA
2N
2CARRIER NG
2NH
2LE
2LAAI
2LI
2LII
2LO
2LOO
2Y-CREE LOO
2LA
2LAA
2LWE
2WEST-CREE LWE
2LWI
2WEST-CREE LWI
2LWII
2WEST-CREE LWII
2LWO
2WEST-CREE LWO
2LWOO
2WEST-CREE LWOO
2LWA
2WEST-CREE LWA
2LWAA
2WEST-CREE LWAA
2L
2WEST-CREE L
2MEDIAL L
2SE
2SAAI
2SI
2SII
2SO
2SOO
2Y-CREE SOO
2SA
2SAA
2SWE
2WEST-CREE SWE
2SWI
2WEST-CREE SWI
2SWII
2WEST-CREE SWII
2SWO
2WEST-CREE SWO
2SWOO
2WEST-CREE SWOO
2SWA
2WEST-CREE SWA
2SWAA
2WEST-CREE SWAA
2NASKAPI SWAA
2S
2ATHAPASCAN S
2SW
2BLACKFOOT S
2MOOSE-CREE SK
2NASKAPI SKW
3S-W
3SPWA
3STWA
3SKWA
3SCWA
2SHE
2SHI
2SHII
2SHO
2SHOO
2SHA
2SHAA
2SHWE
2WEST-CREE SHWE
2SHWI
2WEST-CREE SHWI
2SHWII
2WEST-CREE SHWII
2SHWO
2WEST-CREE SHWO
2SHWOO
2WEST-CREE SHWOO
2SHWA
2WEST-CREE SHWA
2SHWAA
2WEST-CREE SHWAA
2SH
2YE
2YAAI
2YI
2YII
2YO
2YOO
2Y-CREE YOO
2YA
2YAA
2YWE
2WEST-CREE YWE
2YWI
2WEST-CREE YWI
2YWII
2WEST-CREE YWII
2YWO
2WEST-CREE YWO
2YWOO
2WEST-CREE YWOO
2YWA
2WEST-CREE YWA
2YWAA
2WEST-CREE YWAA
2NASKAPI YWAA
2Y
2BIBLE-CREE Y
2WEST-CREE Y
2SAYISI YI
2RE
2R-CREE RE
2WEST-CREE LE
2RAAI
2RI
2RII
2RO
2ROO
2WEST-CREE LO
2RA
2RAA
2WEST-CREE LA
2RWAA
2WEST-CREE RWAA
2R
2WEST-CREE R
2MEDIAL R
2FE
2FAAI
2FI
2FII
2FO
2FOO
2FA
2FAA
2FWAA
2WEST-CREE FWAA
2F
2THE
2N-CREE THE
2THI
2N-CREE THI
2THII
2N-CREE THII
2THO
2THOO
2THA
2THAA
2THWAA
2WEST-CREE THWAA
2TH
2TTHE
2TTHI
2TTHO
2TTHA
2TTH
2TYE
2TYI
2TYO
2TYA
2NUNAVIK HE
3HI
3HII
3HO
3HOO
3HA
3HAA
3H
2NUNAVUT H
2HK
2QAAI
2QI
2QII
2QO
2QOO
2QA
2QAA
2Q
2TLHE
2TLHI
2TLHO
2TLHA
2WEST-CREE RE
3RI
3RO
3RA
2NGAAI
2NGI
2NGII
2NGO
2NGOO
2NGA
2NGAA
2NG
2NNG
2SAYISI SHE
3SHI
3SHO
3SHA
2WOODS-CREE THE
3THI
3THO
3THA
3TH
2LHI
2LHII
2LHO
2LHOO
2LHA
2LHAA
2LH
2TH-CREE THE
3THI
3THII
3THO
3THOO
3THA
3THAA
3TH
2AIVILIK B
2BLACKFOOT E
3I
3O
3A
3WE
3WI
3WO
3WA
3NE
3NI
3NO
3NA
3KE
3KI
3KO
3KA
2SAYISI HE
3HI
3HO
3HA
2CARRIER GHU
3GHO
3GHE
3GHEE
3GHI
3GHA
3RU
3RO
3RE
3REE
3RI
3RA
3WU
3WO
3WE
3WEE
3WI
3WA
3HWU
3HWO
3HWE
3HWEE
3HWI
3HWA
3THU
3THO
3THE
3THEE
3THI
3THA
3TTU
3TTO
3TTE
3TTEE
3TTI
3TTA
3PU
3PO
3PE
3PEE
3PI
3PA
3P
3GU
3GO
3GE
3GEE
3GI
3GA
3KHU
3KHO
3KHE
3KHEE
3KHI
3KHA
3KKU
3KKO
3KKE
3KKEE
3KKI
3KKA
3KK
3NU
3NO
3NE
3NEE
3NI
3NA
3MU
3MO
3ME
3MEE
3MI
3MA
3YU
3YO
3YE
3YEE
3YI
3YA
3JU
2SAYISI JU
2CARRIER JO
3JE
3JEE
3JI
2SAYISI JI
2CARRIER JA
3JJU
3JJO
3JJE
3JJEE
3JJI
3JJA
3LU
3LO
3LE
3LEE
3LI
3LA
3DLU
3DLO
3DLE
3DLEE
3DLI
3DLA
3LHU
3LHO
3LHE
3LHEE
3LHI
3LHA
3TLHU
3TLHO
3TLHE
3TLHEE
3TLHI
3TLHA
3TLU
3TLO
3TLE
3TLEE
3TLI
3TLA
3ZU
3ZO
3ZE
3ZEE
3ZI
3ZA
3Z
3INITIAL Z
3DZU
3DZO
3DZE
3DZEE
3DZI
3DZA
3SU
3SO
3SE
3SEE
3SI
3SA
3SHU
3SHO
3SHE
3SHEE
3SHI
3SHA
3SH
3TSU
3TSO
3TSE
3TSEE
3TSI
3TSA
3CHU
3CHO
3CHE
3CHEE
3CHI
3CHA
3TTSU
3TTSO
3TTSE
3TTSEE
3TTSI
3TTSA
2CHI SIGN
2FULL STOP
2QAI
2NGAI
2NNGI
2NNGII
2NNGO
2NNGOO
2NNGA
2NNGAA
2WOODS-CREE THWEE
3THWI
3THWII
3THWO
3THWOO
3THWA
3THWAA
3FINAL TH
2BLACKFOOT W
0OGHAM SPACE MARK
1LETTER BEITH
2LUIS
2FEARN
2SAIL
2NION
2UATH
2DAIR
2TINNE
2COLL
2CEIRT
2MUIN
2GORT
2NGEADAL
2STRAIF
2RUIS
2AILM
2ONN
2UR
2EADHADH
2IODHADH
2EABHADH
2OR
2UILLEANN
2IFIN
2EAMHANCHOLL
2PEITH
1FEATHER MARK
1REVERSED FEATHER MARK
=16a0
0RUNIC LETTER FEHU FEOH FE F
2V
2URUZ UR U
2YR
2Y
2W
2THURISAZ THURS THORN
2ETH
2ANSUZ A
2OS O
2AC A
2AESC
2LONG-BRANCH-OSS O
2SHORT-TWIG-OSS O
2O
2OE
2ON
2RAIDO RAD REID R
2KAUNA
2CEN
2KAUN K
2G
2ENG
2GEBO GYFU G
2GAR
2WUNJO WYNN W
2HAGLAZ H
2HAEGL H
2LONG-BRANCH-HAGALL H
2SHORT-TWIG-HAGALL H
2NAUDIZ NYD NAUD N
2SHORT-TWIG-NAUD N
2DOTTED-N
2ISAZ IS ISS I
2E
2JERAN J
2GER
2LONG-BRANCH-AR AE
2SHORT-TWIG-AR A
2IWAZ EOH
2PERTHO PEORTH P
2ALGIZ EOLHX
2SOWILO S
2SIGEL LONG-BRANCH-SOL S
2SHORT-TWIG-SOL S
2C
2Z
2TIWAZ TIR TYR T
2SHORT-TWIG-TYR T
2D
2BERKANAN BEORC BJARKAN B
2SHORT-TWIG-BJARKAN B
2DOTTED-P
2OPEN-P
2EHWAZ EH E
2MANNAZ MAN M
2LONG-BRANCH-MADR M
2SHORT-TWIG-MADR M
2LAUKAZ LAGU LOGR L
2DOTTED-L
2INGWAZ
2ING
2DAGAZ DAEG D
2OTHALAN ETHEL O
2EAR
2IOR
2CWEORTH
2CALC
2CEALC
2STAN
2LONG-BRANCH-YR
2SHORT-TWIG-YR
2ICELANDIC-YR
2Q
2X
1SINGLE PUNCTUATION
1MULTIPLE PUNCTUATION
1CROSS PUNCTUATION
1ARLAUG SYMBOL
1TVIMADUR SYMBOL
1BELGTHOR SYMBOL
1LETTER K
2SH
2OO
2FRANKS CASKET OS
4IS
4EH
4AC
4AESC
=1700
0TAGALOG LETTER A
2I
2U
2KA
2GA
2NGA
2TA
2DA
2NA
2PA
2BA
2MA
2YA
2RA
2LA
2WA
2SA
2HA
1VOWEL SIGN I
3U
1SIGN VIRAMA
2PAMUDPOD
=171f
1LETTER ARCHAIC RA
0HANUNOO LETTER A
2I
2U
2KA
2GA
2NGA
2TA
2DA
2NA
2PA
2BA
2MA
2YA
2RA
2LA
2WA
2SA
2HA
1VOWEL SIGN I
3U
1SIGN PAMUDPOD
0PHILIPPINE SINGLE PUNCTUATION
1DOUBLE PUNCTUATION
=1740
0BUHID LETTER A
2I
2U
2KA
2GA
2NGA
2TA
2DA
2NA
2PA
2BA
2MA
2YA
2RA
2LA
2WA
2SA
2HA
1VOWEL SIGN I
3U
=1760
0TAGBANWA LETTER A
2I
2U
2KA
2GA
2NGA
2TA
2DA
2NA
2PA
2BA
2MA
2YA
=176e
2LA
2WA
2SA
=1772
1VOWEL SIGN I
3U
=1780
0KHMER LETTER KA
2KHA
2KO
2KHO
2NGO
2CA
2CHA
2CO
2CHO
2NYO
2DA
2TTHA
2DO
2TTHO
2NNO
2TA
2THA
2TO
2THO
2NO
2BA
2PHA
2PO
2PHO
2MO
2YO
2RO
2LO
2VO
2SHA
2SSO
2SA
2HA
2LA
2QA
1INDEPENDENT VOWEL QAQ
3QAA
3QI
3QII
3QU
3QUK
3QUU
3QUUV
3RY
3RYY
3LY
3LYY
3QE
3QAI
3QOO TYPE ONE
5TWO
3QAU
1VOWEL INHERENT AQ
3AA
2SIGN AA
3I
3II
3Y
3YY
3U
3UU
3UA
3OE
3YA
3IE
3E
3AE
3AI
3OO
3AU
1SIGN NIKAHIT
2REAHMUK
2YUUKALEAPINTU
2MUUSIKATOAN
2TRIISAP
2BANTOC
2ROBAT
2TOANDAKHIAT
2KAKABAT
2AHSDA
2SAMYOK SANNYA
2VIRIAM
2COENG
2BATHAMASAT
2KHAN
2BARIYOOSAN
2CAMNUC PII KUUH
2LEK TOO
2BEYYAL
2PHNAEK MUAN
2KOOMUUT
1CURRENCY SYMBOL RIEL
1SIGN AVAKRAHASANYA
2ATTHACAN
=17e0
1DIGIT ZERO
2ONE
2TWO
2THREE
2FOUR
2FIVE
2SIX
2SEVEN
2EIGHT
2NINE
=17f0
1SYMBOL LEK ATTAK SON
4MUOY
4PII
4BEI
4BUON
4PRAM
4PRAM-MUOY
4PRAM-PII
4PRAM-BEI
4PRAM-BUON
=1800
0MONGOLIAN BIRGA
1ELLIPSIS
1COMMA
1FULL STOP
1COLON
1FOUR DOTS
1TODO SOFT HYPHEN
1SIBE SYLLABLE BOUNDARY MARKER
1MANCHU COMMA
2FULL STOP
1NIRUGU
1FREE VARIATION SELECTOR ONE
4TWO
4THREE
1VOWEL SEPARATOR
1FREE VARIATION SELECTOR FOUR
1DIGIT ZERO
2ONE
2TWO
2THREE
2FOUR
2FIVE
2SIX
2SEVEN
2EIGHT
2NINE
=1820
1LETTER A
2E
2I
2O
2U
2OE
2UE
2EE
2NA
2ANG
2BA
2PA
2QA
2GA
2MA
2LA
2SA
2SHA
2TA
2DA
2CHA
2JA
2YA
2RA
2WA
2FA
2KA
2KHA
2TSA
2ZA
2HAA
2ZRA
2LHA
2ZHI
2CHI
2TODO LONG VOWEL SIGN
3E
3I
3O
3U
3OE
3UE
3ANG
3BA
3PA
3QA
3GA
3MA
3TA
3DA
3CHA
3JA
3TSA
3YA
3WA
3KA
3GAA
3HAA
3JIA
3NIA
3DZA
2SIBE E
3I
3IY
3UE
3U
3ANG
3KA
3GA
3HA
3PA
3SHA
3TA
3DA
3JA
3FA
3GAA
3HAA
3TSA
3ZA
3RAA
3CHA
3ZHA
2MANCHU I
3KA
3RA
3FA
3ZHA
2CHA WITH TWO DOTS
=1880
2ALI GALI ANUSVARA ONE
4VISARGA ONE
4DAMARU
4UBADAMA
4INVERTED UBADAMA
4BALUDA
4THREE BALUDA
4A
4I
4KA
4NGA
4CA
4TTA
4TTHA
4DDA
4NNA
4TA
4DA
4PA
4PHA
4SSA
4ZHA
4ZA
4AH
2TODO ALI GALI TA
5ZHA
2MANCHU ALI GALI GHA
5NGA
5CA
5JHA
5TTA
5DDHA
5TA
5DHA
5SSA
5CYA
5ZHA
5ZA
2ALI GALI HALF U
5YA
2MANCHU ALI GALI BHA
2ALI GALI DAGALGA
2MANCHU ALI GALI LHA
=18b0
0CANADIAN SYLLABICS OY
2AY
2AAY
2WAY
2POY
2PAY
2PWOY
2TAY
2KAY
2KWAY
2MAY
2NOY
2NAY
2LAY
2SOY
2SAY
2SHOY
2SHAY
2SHWOY
2YOY
2YAY
2RAY
2NWI
2OJIBWAY NWI
2NWII
2OJIBWAY NWII
2NWO
2OJIBWAY NWO
2NWOO
2OJIBWAY NWOO
2RWEE
2RWI
2RWII
2RWO
2RWOO
2RWA
2OJIBWAY P
3T
3K
3C
3M
3N
3S
3SH
2EASTERN W
2WESTERN W
2FINAL SMALL RING
3RAISED DOT
2R-CREE RWE
2WEST-CREE LOO
3LAA
2THWE
2THWA
2TTHWE
2TTHOO
2TTHAA
2TLHWE
2TLHOO
2SAYISI SHWE
3SHOO
3HOO
2CARRIER GWU
3DENE GEE
3GAA
3GWA
2SAYISI JUU
2CARRIER JWA
2BEAVER DENE L
4R
2CARRIER DENTAL S
=1900
0LIMBU VOWEL-CARRIER LETTER
1LETTER KA
2KHA
2GA
2GHA
2NGA
2CA
2CHA
2JA
2JHA
2YAN
2TA
2THA
2DA
2DHA
2NA
2PA
2PHA
2BA
2BHA
2MA
2YA
2RA
2LA
2WA
2SHA
2SSA
2SA
2HA
2GYAN
2TRA
=1920
1VOWEL SIGN A
3I
3U
3EE
3AI
3OO
3AU
3E
3O
1SUBJOINED LETTER YA
3RA
3WA
=1930
1SMALL LETTER KA
3NGA
3ANUSVARA
3TA
3NA
3PA
3MA
3RA
3LA
1SIGN MUKPHRENG
2KEMPHRENG
2SA-I
=1940
2LOO
=1944
1EXCLAMATION MARK
1QUESTION MARK
1DIGIT ZERO
2ONE
2TWO
2THREE
2FOUR
2FIVE
2SIX
2SEVEN
2EIGHT
2NINE
0TAI LE LETTER KA
3XA
3NGA
3TSA
3SA
3YA
3TA
3THA
3LA
3PA
3PHA
3MA
3FA
3VA
3HA
3QA
3KHA
3TSHA
3NA
3A
3I
3EE
3EH
3U
3OO
3O
3UE
3E
3AUE
3AI
=1970
3TONE-2
3TONE-3
3TONE-4
3TONE-5
3TONE-6
=1980
0NEW TAI LUE LETTER HIGH QA
4LOW QA
4HIGH KA
5XA
5NGA
4LOW KA
5XA
5NGA
4HIGH TSA
5SA
5YA
4LOW TSA
5SA
5YA
4HIGH TA
5THA
5NA
4LOW TA
5THA
5NA
4HIGH PA
5PHA
5MA
4LOW PA
5PHA
5MA
4HIGH FA
5VA
5LA
4LOW FA
5VA
5LA
4HIGH HA
5DA
5BA
4LOW HA
5DA
5BA
4HIGH KVA
5XVA
4LOW KVA
5XVA
4HIGH SUA
4LOW SUA
=19b0
3VOWEL SIGN VOWEL SHORTENER
5AA
5II
5U
5UU
5E
5AE
5O
5OA
5UE
5AY
5AAY
5UY
5OY
5OAY
5UEY
5IY
3LETTER FINAL V
5NG
5N
5M
5K
5D
5B
3TONE MARK-1
4MARK-2
=19d0
3DIGIT ZERO
4ONE
4TWO
4THREE
4FOUR
4FIVE
4SIX
4SEVEN
4EIGHT
4NINE
3THAM DIGIT ONE
=19de
3SIGN LAE
4LAEV
0KHMER SYMBOL PATHAMASAT
2MUOY KOET
2PII KOET
2BEI KOET
2BUON KOET
2PRAM KOET
2PRAM-MUOY KOET
2PRAM-PII KOET
2PRAM-BEI KOET
2PRAM-BUON KOET
2DAP KOET
2DAP-MUOY KOET
2DAP-PII KOET
2DAP-BEI KOET
2DAP-BUON KOET
2DAP-PRAM KOET
2TUTEYASAT
2MUOY ROC
2PII ROC
2BEI ROC
2BUON ROC
2PRAM ROC
2PRAM-MUOY ROC
2PRAM-PII ROC
2PRAM-BEI ROC
2PRAM-BUON ROC
2DAP ROC
2DAP-MUOY ROC
2DAP-PII ROC
2DAP-BEI ROC
2DAP-BUON ROC
2DAP-PRAM ROC
0BUGINESE LETTER KA
2GA
2NGA
2NGKA
2PA
2BA
2MA
2MPA
2TA
2DA
2NA
2NRA
2CA
2JA
2NYA
2NYCA
2YA
2RA
2LA
2VA
2SA
2A
2HA
1VOWEL SIGN I
3U
3E
3O
3AE
=1a1e
1PALLAWA
1END OF SECTION
0TAI THAM LETTER HIGH KA
4KHA
4KXA
3LOW KA
4KXA
4KHA
3NGA
3HIGH CA
4CHA
3LOW CA
4SA
4CHA
3NYA
3RATA
3HIGH RATHA
3DA
3LOW RATHA
3RANA
3HIGH TA
4THA
3LOW TA
4THA
3NA
3BA
3HIGH PA
4PHA
4FA
3LOW PA
4FA
4PHA
3MA
3LOW YA
3HIGH YA
3RA
3RUE
3LA
3LUE
3WA
3HIGH SHA
4SSA
4SA
4HA
3LLA
3A
3LOW HA
3I
3II
3U
3UU
3EE
3OO
3LAE
3GREAT SA
2CONSONANT SIGN MEDIAL RA
5LA
4LA TANG LAI
2SIGN MAI KANG LAI
2CONSONANT SIGN FINAL NGA
4LOW PA
4HIGH RATHA OR LOW PA
4MA
4BA
4SA
=1a60
2SIGN SAKOT
2VOWEL SIGN A
4MAI SAT
4AA
4TALL AA
4I
4II
4UE
4UUE
4U
4UU
4O
4OA BELOW
4OY
4E
4AE
4OO
4AI
4THAM AI
4OA ABOVE
2SIGN MAI KANG
3TONE-1
3TONE-2
3KHUEN TONE-3
4TONE-4
4TONE-5
3RA HAAM
3MAI SAM
3KHUEN-LUE KARAN
=1a7f
2COMBINING CRYPTOGRAMMIC DOT
2HORA DIGIT ZERO
4ONE
4TWO
4THREE
4FOUR
4FIVE
4SIX
4SEVEN
4EIGHT
4NINE
=1a90
2THAM DIGIT ZERO
4ONE
4TWO
4THREE
4FOUR
4FIVE
4SIX
4SEVEN
4EIGHT
4NINE
=1aa0
2SIGN WIANG
3WIANGWAAK
3SAWAN
3KEOW
3HOY
3DOKMAI
3REVERSED ROTATED RANA
3MAI YAMOK
3KAAN
3KAANKUU
3SATKAAN
3SATKAANKUU
3HANG
3CAANG
=1ab0
0COMBINING DOUBLED CIRCUMFLEX ACCENT
1DIAERESIS-RING
1INFINITY
1DOWNWARDS ARROW
1TRIPLE DOT
1X-X BELOW
1WIGGLY LINE BELOW
1OPEN MARK BELOW
1DOUBLE OPEN MARK BELOW
1LIGHT CENTRALIZATION STROKE BELOW
1STRONG CENTRALIZATION STROKE BELOW
1PARENTHESES ABOVE
1DOUBLE PARENTHESES ABOVE
1PARENTHESES BELOW
2OVERLAY
1LATIN SMALL LETTER W BELOW
4TURNED W BELOW
1LEFT PARENTHESIS ABOVE LEFT
1RIGHT PARENTHESIS ABOVE RIGHT
1LEFT PARENTHESIS BELOW LEFT
1RIGHT PARENTHESIS BELOW RIGHT
1SQUARE BRACKETS ABOVE
1NUMBER SIGN ABOVE
1INVERTED DOUBLE ARCH ABOVE
1PLUS SIGN ABOVE
1DOUBLE PLUS SIGN ABOVE
4BELOW
1TRIPLE ACUTE ACCENT
1LATIN SMALL LETTER INSULAR G
5R
5T
=1b00
0BALINESE SIGN ULU RICEM
3CANDRA
2CECEK
2SURANG
2BISAH
1LETTER AKARA
3TEDUNG
2IKARA
3TEDUNG
2UKARA
3TEDUNG
2RA REPA
4TEDUNG
2LA LENGA
4TEDUNG
2EKARA
2AIKARA
2OKARA
3TEDUNG
2KA
3MAHAPRANA
2GA
3GORA
2NGA
2CA
3LACA
2JA
3JERA
2NYA
2TA LATIK
3MURDA MAHAPRANA
2DA MURDA ALPAPRANA
4MAHAPRANA
2NA RAMBAT
2TA
3TAWA
2DA
3MADU
2NA
2PA
3KAPAL
2BA
3KEMBANG
2MA
2YA
2RA
2LA
2WA
2SA SAGA
3SAPA
3
2HA
1SIGN REREKAN
1VOWEL SIGN TEDUNG
3ULU
4SARI
3SUKU
4ILUT
3RA REPA
5TEDUNG
3LA LENGA
5TEDUNG
3TALING
4REPA
4TEDUNG
4REPA TEDUNG
3PEPET
4TEDUNG
1ADEG ADEG
1LETTER KAF SASAK
2KHOT SASAK
2TZIR SASAK
2EF SASAK
2VE SASAK
2ZAL SASAK
2ASYURA SASAK
2ARCHAIC JNYA
=1b50
1DIGIT ZERO
2ONE
2TWO
2THREE
2FOUR
2FIVE
2SIX
2SEVEN
2EIGHT
2NINE
1PANTI
1PAMADA
1WINDU
1CARIK PAMUNGKAH
2SIKI
2PAREREN
1PAMENENG
1MUSICAL SYMBOL DONG
3DENG
3DUNG
3DANG
4SURANG
3DING
3DAENG
3DEUNG
3DAING
3DANG GEDE
3COMBINING TEGEH
4ENDEP
4KEMPUL
4KEMPLI
4JEGOGAN
4KEMPUL WITH JEGOGAN
4KEMPLI WITH JEGOGAN
4BENDE
4GONG
3RIGHT-HAND OPEN DUG
5DAG
4CLOSED TUK
5TAK
3LEFT-HAND OPEN PANG
5PUNG
4CLOSED PLAK
5PLUK
4OPEN PING
1PANTI LANTANG
1PAMADA LANTANG
=1b80
0SUNDANESE SIGN PANYECEK
2PANGLAYAR
2PANGWISAD
1LETTER A
2I
2U
2AE
2O
2E
2EU
2KA
2QA
2GA
2NGA
2CA
2JA
2ZA
2NYA
2TA
2DA
2NA
2PA
2FA
2VA
2BA
2MA
2YA
2RA
2LA
2WA
2SA
2XA
2HA
1CONSONANT SIGN PAMINGKAL
3PANYAKRA
3PANYIKU
1VOWEL SIGN PANGHULU
3PANYUKU
3PANAELAENG
3PANOLONG
3PAMEPET
3PANEULEUNG
1SIGN PAMAAEH
2VIRAMA
1CONSONANT SIGN PASANGAN MA
4WA
1LETTER KHA
2SYA
1DIGIT ZERO
2ONE
2TWO
2THREE
2FOUR
2FIVE
2SIX
2SEVEN
2EIGHT
2NINE
1AVAGRAHA
1LETTER REU
2LEU
2BHA
2FINAL K
3M
0BATAK LETTER A
2SIMALUNGUN A
2HA
2SIMALUNGUN HA
2MANDAILING HA
2BA
2KARO BA
2PA
2SIMALUNGUN PA
2NA
2MANDAILING NA
2WA
2SIMALUNGUN WA
2PAKPAK WA
2GA
2SIMALUNGUN GA
2JA
2DA
2RA
2SIMALUNGUN RA
2MA
2SIMALUNGUN MA
2SOUTHERN TA
2NORTHERN TA
2SA
2SIMALUNGUN SA
2MANDAILING SA
2YA
2SIMALUNGUN YA
2NGA
2LA
2SIMALUNGUN LA
2NYA
2CA
2NDA
2MBA
2I
2U
1SIGN TOMPI
1VOWEL SIGN E
3PAKPAK E
3EE
3I
3KARO I
3O
3KARO O
3U
4FOR SIMALUNGUN SA
1CONSONANT SIGN NG
3H
1PANGOLAT
1PANONGONAN
=1bfc
1SYMBOL BINDU NA METEK
3PINARBORAS
3JUDUL
3PANGOLAT
0LEPCHA LETTER KA
2KLA
2KHA
2GA
2GLA
2NGA
2CA
2CHA
2JA
2NYA
2TA
2THA
2DA
2NA
2PA
2PLA
2PHA
2FA
2FLA
2BA
2BLA
2MA
2MLA
2TSA
2TSHA
2DZA
2YA
2RA
2LA
2HA
2HLA
2VA
2SA
2SHA
2WA
2A
1SUBJOINED LETTER YA
3RA
1VOWEL SIGN AA
3I
3O
3OO
3U
3UU
3E
1CONSONANT SIGN K
3M
3L
3N
3P
3R
3T
3NYIN-DO
3KANG
1SIGN RAN
2NUKTA
=1c3b
1PUNCTUATION TA-ROL
2NYET THYOOM TA-ROL
2CER-WA
2TSHOOK CER-WA
3
1DIGIT ZERO
2ONE
2TWO
2THREE
2FOUR
2FIVE
2SIX
2SEVEN
2EIGHT
2NINE
=1c4d
1LETTER TTA
2TTHA
2DDA
0OL CHIKI DIGIT ZERO
3ONE
3TWO
3THREE
3FOUR
3FIVE
3SIX
3SEVEN
3EIGHT
3NINE
2LETTER LA
3AT
3AG
3ANG
3AL
3LAA
3AAK
3AAJ
3AAM
3AAW
3LI
3IS
3IH
3INY
3IR
3LU
3UC
3UD
3UNN
3UY
3LE
3EP
3EDD
3EN
3ERR
3LO
3OTT
3OB
3OV
3OH
2MU TTUDDAG
2GAAHLAA TTUDDAAG
2MU-GAAHLAA TTUDDAAG
2RELAA
2PHAARKAA
2AHAD
2PUNCTUATION MUCAAD
3DOUBLE MUCAAD
0CYRILLIC SMALL LETTER ROUNDED VE
3LONG-LEGGED DE
3NARROW O
3WIDE ES
3TALL TE
3THREE-LEGGED TE
3TALL HARD SIGN
4YAT
3UNBLENDED UK
=1c90
0GEORGIAN MTAVRULI CAPITAL LETTER AN
4BAN
4GAN
4DON
4EN
4VIN
4ZEN
4TAN
4IN
4KAN
4LAS
4MAN
4NAR
4ON
4PAR
4ZHAR
4RAE
4SAN
4TAR
4UN
4PHAR
4KHAR
4GHAN
4QAR
4SHIN
4CHIN
4CAN
4JIL
4CIL
4CHAR
4XAN
4JHAN
4HAE
4HE
4HIE
4WE
4HAR
4HOE
4FI
4YN
4ELIFI
4TURNED GAN
4AIN
=1cbd
4AEN
4HARD SIGN
4LABIAL SIGN
0SUNDANESE PUNCTUATION BINDU SURYA
3PANGLONG
3PURNAMA
3CAKRA
3LEU SATANGA
3KA SATANGA
3DA SATANGA
3BA SATANGA
=1cd0
0VEDIC TONE KARSHANA
2SHARA
2PRENKHA
1SIGN NIHSHVASA
2YAJURVEDIC MIDLINE SVARITA
1TONE YAJURVEDIC AGGRAVATED INDEPENDENT SVARITA
3INDEPENDENT SVARITA
3KATHAKA INDEPENDENT SVARITA
2CANDRA BELOW
2YAJURVEDIC KATHAKA INDEPENDENT SVARITA SCHROEDER
2DOUBLE SVARITA
2TRIPLE SVARITA
2KATHAKA ANUDATTA
2DOT BELOW
2TWO DOTS BELOW
2THREE DOTS BELOW
2RIGVEDIC KASHMIRI INDEPENDENT SVARITA
2ATHARVAVEDIC INDEPENDENT SVARITA
1SIGN VISARGA SVARITA
3UDATTA
2REVERSED VISARGA UDATTA
2VISARGA ANUDATTA
2REVERSED VISARGA ANUDATTA
2VISARGA UDATTA WITH TAIL
3ANUDATTA WITH TAIL
2ANUSVARA ANTARGOMUKHA
3BAHIRGOMUKHA
3VAMAGOMUKHA
4WITH TAIL
2TIRYAK
2HEXIFORM LONG ANUSVARA
2LONG ANUSVARA
2RTHANG LONG ANUSVARA
2ANUSVARA UBHAYATO MUKHA
2ARDHAVISARGA
2ROTATED ARDHAVISARGA
1TONE CANDRA ABOVE
1SIGN JIHVAMULIYA
2UPADHMANIYA
2ATIKRAMA
1TONE RING ABOVE
2DOUBLE RING ABOVE
1SIGN DOUBLE ANUSVARA ANTARGOMUKHA
=1d00
0LATIN LETTER SMALL CAPITAL A
4AE
1SMALL LETTER TURNED AE
1LETTER SMALL CAPITAL BARRED B
4C
4D
4ETH
4E
1SMALL LETTER TURNED OPEN E
4I
1LETTER SMALL CAPITAL J
4K
4L WITH STROKE
4M
4REVERSED N
4O
4OPEN O
1SMALL LETTER SIDEWAYS O
4OPEN O
4O WITH STROKE
3TURNED OE
1LETTER SMALL CAPITAL OU
1SMALL LETTER TOP HALF O
3BOTTOM HALF O
1LETTER SMALL CAPITAL P
4REVERSED R
4TURNED R
4T
4U
1SMALL LETTER SIDEWAYS U
4DIAERESIZED U
4TURNED M
1LETTER SMALL CAPITAL V
4W
4Z
4EZH
2VOICED LARYNGEAL SPIRANT
2AIN
0GREEK LETTER SMALL CAPITAL GAMMA
4LAMDA
4PI
4RHO
4PSI
0CYRILLIC LETTER SMALL CAPITAL EL
0MODIFIER LETTER CAPITAL A
3AE
3B
3BARRED B
3D
3E
3REVERSED E
3G
3H
3I
3J
3K
3L
3M
3N
3REVERSED N
3O
3OU
3P
3R
3T
3U
3W
2SMALL A
3TURNED A
3ALPHA
3TURNED AE
3B
3D
3E
3SCHWA
3OPEN E
3TURNED OPEN E
3G
3TURNED I
3K
3M
3ENG
3O
3OPEN O
3TOP HALF O
3BOTTOM HALF O
3P
3T
3U
3SIDEWAYS U
3TURNED M
3V
3AIN
3BETA
3GREEK GAMMA
3DELTA
3GREEK PHI
3CHI
0LATIN SUBSCRIPT SMALL LETTER I
4R
4U
4V
0GREEK SUBSCRIPT SMALL LETTER BETA
4GAMMA
4RHO
4PHI
4CHI
0LATIN SMALL LETTER UE
3B WITH MIDDLE TILDE
3D WITH MIDDLE TILDE
3F WITH MIDDLE TILDE
3M WITH MIDDLE TILDE
3N WITH MIDDLE TILDE
3P WITH MIDDLE TILDE
3R WITH MIDDLE TILDE
5FISHHOOK AND MIDDLE TILDE
3S WITH MIDDLE TILDE
3T WITH MIDDLE TILDE
3Z WITH MIDDLE TILDE
3TURNED G
0MODIFIER LETTER CYRILLIC EN
0LATIN SMALL LETTER INSULAR G
3TH WITH STRIKETHROUGH
2CAPITAL LETTER I WITH STROKE
2LETTER IOTA WITH STROKE
3P WITH STROKE
2CAPITAL LETTER U WITH STROKE
2LETTER UPSILON WITH STROKE
3B WITH PALATAL HOOK
3D WITH PALATAL HOOK
3F WITH PALATAL HOOK
3G WITH PALATAL HOOK
3K WITH PALATAL HOOK
3L WITH PALATAL HOOK
3M WITH PALATAL HOOK
3N WITH PALATAL HOOK
3P WITH PALATAL HOOK
3R WITH PALATAL HOOK
3S WITH PALATAL HOOK
3ESH WITH PALATAL HOOK
3V WITH PALATAL HOOK
3X WITH PALATAL HOOK
3Z WITH PALATAL HOOK
3A WITH RETROFLEX HOOK
3ALPHA WITH RETROFLEX HOOK
3D WITH HOOK AND TAIL
3E WITH RETROFLEX HOOK
3OPEN E WITH RETROFLEX HOOK
3REVERSED OPEN E WITH RETROFLEX HOOK
3SCHWA WITH RETROFLEX HOOK
3I WITH RETROFLEX HOOK
3OPEN O WITH RETROFLEX HOOK
3ESH WITH RETROFLEX HOOK
3U WITH RETROFLEX HOOK
3EZH WITH RETROFLEX HOOK
0MODIFIER LETTER SMALL TURNED ALPHA
3C
4WITH CURL
3ETH
3REVERSED OPEN E
3F
3DOTLESS J WITH STROKE
3SCRIPT G
3TURNED H
3I WITH STROKE
3IOTA
3CAPITAL I
5WITH STROKE
3J WITH CROSSED-TAIL
3L WITH RETROFLEX HOOK
5PALATAL HOOK
3CAPITAL L
3M WITH HOOK
3TURNED M WITH LONG LEG
3N WITH LEFT HOOK
5RETROFLEX HOOK
3CAPITAL N
3BARRED O
3PHI
3S WITH HOOK
3ESH
3T WITH PALATAL HOOK
3U BAR
3UPSILON
3CAPITAL U
3V WITH HOOK
3TURNED V
3Z
4WITH RETROFLEX HOOK
5CURL
3EZH
3THETA
0COMBINING DOTTED GRAVE ACCENT
2ACUTE ACCENT
1SNAKE BELOW
1SUSPENSION MARK
1MACRON-ACUTE
1GRAVE-MACRON
1MACRON-GRAVE
1ACUTE-MACRON
1GRAVE-ACUTE-GRAVE
1ACUTE-GRAVE-ACUTE
1LATIN SMALL LETTER R BELOW
1BREVE-MACRON
1MACRON-BREVE
1DOUBLE CIRCUMFLEX ABOVE
1OGONEK ABOVE
1ZIGZAG BELOW
1IS BELOW
1UR ABOVE
1US ABOVE
1LATIN SMALL LETTER FLATTENED OPEN A ABOVE
4AE
4AO
4AV
4C CEDILLA
4INSULAR D
4ETH
4G
2LETTER SMALL CAPITAL G
2SMALL LETTER K
4L
2LETTER SMALL CAPITAL L
5M
2SMALL LETTER N
2LETTER SMALL CAPITAL N
5R
2SMALL LETTER R ROTUNDA
4S
4LONG S
4Z
4ALPHA
4B
4BETA
4SCHWA
4F
4L WITH DOUBLE MIDDLE TILDE
4O WITH LIGHT CENTRALIZATION STROKE
4P
4ESH
4U WITH LIGHT CENTRALIZATION STROKE
4W
4A WITH DIAERESIS
4O WITH DIAERESIS
4U WITH DIAERESIS
1UP TACK ABOVE
1KAVYKA ABOVE RIGHT
3LEFT
1DOT ABOVE LEFT
1WIDE INVERTED BRIDGE BELOW
1DOT BELOW LEFT
1DELETION MARK
1DOUBLE INVERTED BREVE BELOW
1ALMOST EQUAL TO BELOW
1LEFT ARROWHEAD ABOVE
1RIGHT ARROWHEAD AND DOWN ARROWHEAD BELOW
0LATIN CAPITAL LETTER A WITH RING BELOW
1SMALL LETTER A WITH RING BELOW
1CAPITAL LETTER B WITH DOT ABOVE
1SMALL LETTER B WITH DOT ABOVE
1CAPITAL LETTER B WITH DOT BELOW
1SMALL LETTER B WITH DOT BELOW
1CAPITAL LETTER B WITH LINE BELOW
1SMALL LETTER B WITH LINE BELOW
1CAPITAL LETTER C WITH CEDILLA AND ACUTE
1SMALL LETTER C WITH CEDILLA AND ACUTE
1CAPITAL LETTER D WITH DOT ABOVE
1SMALL LETTER D WITH DOT ABOVE
1CAPITAL LETTER D WITH DOT BELOW
1SMALL LETTER D WITH DOT BELOW
1CAPITAL LETTER D WITH LINE BELOW
1SMALL LETTER D WITH LINE BELOW
1CAPITAL LETTER D WITH CEDILLA
1SMALL LETTER D WITH CEDILLA
1CAPITAL LETTER D WITH CIRCUMFLEX BELOW
1SMALL LETTER D WITH CIRCUMFLEX BELOW
1CAPITAL LETTER E WITH MACRON AND GRAVE
1SMALL LETTER E WITH MACRON AND GRAVE
1CAPITAL LETTER E WITH MACRON AND ACUTE
1SMALL LETTER E WITH MACRON AND ACUTE
1CAPITAL LETTER E WITH CIRCUMFLEX BELOW
1SMALL LETTER E WITH CIRCUMFLEX BELOW
1CAPITAL LETTER E WITH TILDE BELOW
1SMALL LETTER E WITH TILDE BELOW
1CAPITAL LETTER E WITH CEDILLA AND BREVE
1SMALL LETTER E WITH CEDILLA AND BREVE
1CAPITAL LETTER F WITH DOT ABOVE
1SMALL LETTER F WITH DOT ABOVE
1CAPITAL LETTER G WITH MACRON
1SMALL LETTER G WITH MACRON
1CAPITAL LETTER H WITH DOT ABOVE
1SMALL LETTER H WITH DOT ABOVE
1CAPITAL LETTER H WITH DOT BELOW
1SMALL LETTER H WITH DOT BELOW
1CAPITAL LETTER H WITH DIAERESIS
1SMALL LETTER H WITH DIAERESIS
1CAPITAL LETTER H WITH CEDILLA
1SMALL LETTER H WITH CEDILLA
1CAPITAL LETTER H WITH BREVE BELOW
1SMALL LETTER H WITH BREVE BELOW
1CAPITAL LETTER I WITH TILDE BELOW
1SMALL LETTER I WITH TILDE BELOW
1CAPITAL LETTER I WITH DIAERESIS AND ACUTE
1SMALL LETTER I WITH DIAERESIS AND ACUTE
1CAPITAL LETTER K WITH ACUTE
1SMALL LETTER K WITH ACUTE
1CAPITAL LETTER K WITH DOT BELOW
1SMALL LETTER K WITH DOT BELOW
1CAPITAL LETTER K WITH LINE BELOW
1SMALL LETTER K WITH LINE BELOW
1CAPITAL LETTER L WITH DOT BELOW
1SMALL LETTER L WITH DOT BELOW
1CAPITAL LETTER L WITH DOT BELOW AND MACRON
1SMALL LETTER L WITH DOT BELOW AND MACRON
1CAPITAL LETTER L WITH LINE BELOW
1SMALL LETTER L WITH LINE BELOW
1CAPITAL LETTER L WITH CIRCUMFLEX BELOW
1SMALL LETTER L WITH CIRCUMFLEX BELOW
1CAPITAL LETTER M WITH ACUTE
1SMALL LETTER M WITH ACUTE
1CAPITAL LETTER M WITH DOT ABOVE
1SMALL LETTER M WITH DOT ABOVE
1CAPITAL LETTER M WITH DOT BELOW
1SMALL LETTER M WITH DOT BELOW
1CAPITAL LETTER N WITH DOT ABOVE
1SMALL LETTER N WITH DOT ABOVE
1CAPITAL LETTER N WITH DOT BELOW
1SMALL LETTER N WITH DOT BELOW
1CAPITAL LETTER N WITH LINE BELOW
1SMALL LETTER N WITH LINE BELOW
1CAPITAL LETTER N WITH CIRCUMFLEX BELOW
1SMALL LETTER N WITH CIRCUMFLEX BELOW
1CAPITAL LETTER O WITH TILDE AND ACUTE
1SMALL LETTER O WITH TILDE AND ACUTE
1CAPITAL LETTER O WITH TILDE AND DIAERESIS
1SMALL LETTER O WITH TILDE AND DIAERESIS
1CAPITAL LETTER O WITH MACRON AND GRAVE
1SMALL LETTER O WITH MACRON AND GRAVE
1CAPITAL LETTER O WITH MACRON AND ACUTE
1SMALL LETTER O WITH MACRON AND ACUTE
1CAPITAL LETTER P WITH ACUTE
1SMALL LETTER P WITH ACUTE
1CAPITAL LETTER P WITH DOT ABOVE
1SMALL LETTER P WITH DOT ABOVE
1CAPITAL LETTER R WITH DOT ABOVE
1SMALL LETTER R WITH DOT ABOVE
1CAPITAL LETTER R WITH DOT BELOW
1SMALL LETTER R WITH DOT BELOW
1CAPITAL LETTER R WITH DOT BELOW AND MACRON
1SMALL LETTER R WITH DOT BELOW AND MACRON
1CAPITAL LETTER R WITH LINE BELOW
1SMALL LETTER R WITH LINE BELOW
1CAPITAL LETTER S WITH DOT ABOVE
1SMALL LETTER S WITH DOT ABOVE
1CAPITAL LETTER S WITH DOT BELOW
1SMALL LETTER S WITH DOT BELOW
1CAPITAL LETTER S WITH ACUTE AND DOT ABOVE
1SMALL LETTER S WITH ACUTE AND DOT ABOVE
1CAPITAL LETTER S WITH CARON AND DOT ABOVE
1SMALL LETTER S WITH CARON AND DOT ABOVE
1CAPITAL LETTER S WITH DOT BELOW AND DOT ABOVE
1SMALL LETTER S WITH DOT BELOW AND DOT ABOVE
1CAPITAL LETTER T WITH DOT ABOVE
1SMALL LETTER T WITH DOT ABOVE
1CAPITAL LETTER T WITH DOT BELOW
1SMALL LETTER T WITH DOT BELOW
1CAPITAL LETTER T WITH LINE BELOW
1SMALL LETTER T WITH LINE BELOW
1CAPITAL LETTER T WITH CIRCUMFLEX BELOW
1SMALL LETTER T WITH CIRCUMFLEX BELOW
1CAPITAL LETTER U WITH DIAERESIS BELOW
1SMALL LETTER U WITH DIAERESIS BELOW
1CAPITAL LETTER U WITH TILDE BELOW
1SMALL LETTER U WITH TILDE BELOW
1CAPITAL LETTER U WITH CIRCUMFLEX BELOW
1SMALL LETTER U WITH CIRCUMFLEX BELOW
1CAPITAL LETTER U WITH TILDE AND ACUTE
1SMALL LETTER U WITH TILDE AND ACUTE
1CAPITAL LETTER U WITH MACRON AND DIAERESIS
1SMALL LETTER U WITH MACRON AND DIAERESIS
1CAPITAL LETTER V WITH TILDE
1SMALL LETTER V WITH TILDE
1CAPITAL LETTER V WITH DOT BELOW
1SMALL LETTER V WITH DOT BELOW
1CAPITAL LETTER W WITH GRAVE
1SMALL LETTER W WITH GRAVE
1CAPITAL LETTER W WITH ACUTE
1SMALL LETTER W WITH ACUTE
1CAPITAL LETTER W WITH DIAERESIS
1SMALL LETTER W WITH DIAERESIS
1CAPITAL LETTER W WITH DOT ABOVE
1SMALL LETTER W WITH DOT ABOVE
1CAPITAL LETTER W WITH DOT BELOW
1SMALL LETTER W WITH DOT BELOW
1CAPITAL LETTER X WITH DOT ABOVE
1SMALL LETTER X WITH DOT ABOVE
1CAPITAL LETTER X WITH DIAERESIS
1SMALL LETTER X WITH DIAERESIS
1CAPITAL LETTER Y WITH DOT ABOVE
1SMALL LETTER Y WITH DOT ABOVE
1CAPITAL LETTER Z WITH CIRCUMFLEX
1SMALL LETTER Z WITH CIRCUMFLEX
1CAPITAL LETTER Z WITH DOT BELOW
1SMALL LETTER Z WITH DOT BELOW
1CAPITAL LETTER Z WITH LINE BELOW
1SMALL LETTER Z WITH LINE BELOW
3H WITH LINE BELOW
3T WITH DIAERESIS
3W WITH RING ABOVE
3Y WITH RING ABOVE
3A WITH RIGHT HALF RING
3LONG S WITH DOT ABOVE
6DIAGONAL STROKE
6HIGH STROKE
1CAPITAL LETTER SHARP S
1SMALL LETTER DELTA
1CAPITAL LETTER A WITH DOT BELOW
1SMALL LETTER A WITH DOT BELOW
1CAPITAL LETTER A WITH HOOK ABOVE
1SMALL LETTER A WITH HOOK ABOVE
1CAPITAL LETTER A WITH CIRCUMFLEX AND ACUTE
1SMALL LETTER A WITH CIRCUMFLEX AND ACUTE
1CAPITAL LETTER A WITH CIRCUMFLEX AND GRAVE
1SMALL LETTER A WITH CIRCUMFLEX AND GRAVE
1CAPITAL LETTER A WITH CIRCUMFLEX AND HOOK ABOVE
1SMALL LETTER A WITH CIRCUMFLEX AND HOOK ABOVE
1CAPITAL LETTER A WITH CIRCUMFLEX AND TILDE
1SMALL LETTER A WITH CIRCUMFLEX AND TILDE
1CAPITAL LETTER A WITH CIRCUMFLEX AND DOT BELOW
1SMALL LETTER A WITH CIRCUMFLEX AND DOT BELOW
1CAPITAL LETTER A WITH BREVE AND ACUTE
1SMALL LETTER A WITH BREVE AND ACUTE
1CAPITAL LETTER A WITH BREVE AND GRAVE
1SMALL LETTER A WITH BREVE AND GRAVE
1CAPITAL LETTER A WITH BREVE AND HOOK ABOVE
1SMALL LETTER A WITH BREVE AND HOOK ABOVE
1CAPITAL LETTER A WITH BREVE AND TILDE
1SMALL LETTER A WITH BREVE AND TILDE
1CAPITAL LETTER A WITH BREVE AND DOT BELOW
1SMALL LETTER A WITH BREVE AND DOT BELOW
1CAPITAL LETTER E WITH DOT BELOW
1SMALL LETTER E WITH DOT BELOW
1CAPITAL LETTER E WITH HOOK ABOVE
1SMALL LETTER E WITH HOOK ABOVE
1CAPITAL LETTER E WITH TILDE
1SMALL LETTER E WITH TILDE
1CAPITAL LETTER E WITH CIRCUMFLEX AND ACUTE
1SMALL LETTER E WITH CIRCUMFLEX AND ACUTE
1CAPITAL LETTER E WITH CIRCUMFLEX AND GRAVE
1SMALL LETTER E WITH CIRCUMFLEX AND GRAVE
1CAPITAL LETTER E WITH CIRCUMFLEX AND HOOK ABOVE
1SMALL LETTER E WITH CIRCUMFLEX AND HOOK ABOVE
1CAPITAL LETTER E WITH CIRCUMFLEX AND TILDE
1SMALL LETTER E WITH CIRCUMFLEX AND TILDE
1CAPITAL LETTER E WITH CIRCUMFLEX AND DOT BELOW
1SMALL LETTER E WITH CIRCUMFLEX AND DOT BELOW
1CAPITAL LETTER I WITH HOOK ABOVE
1SMALL LETTER I WITH HOOK ABOVE
1CAPITAL LETTER I WITH DOT BELOW
1SMALL LETTER I WITH DOT BELOW
1CAPITAL LETTER O WITH DOT BELOW
1SMALL LETTER O WITH DOT BELOW
1CAPITAL LETTER O WITH HOOK ABOVE
1SMALL LETTER O WITH HOOK ABOVE
1CAPITAL LETTER O WITH CIRCUMFLEX AND ACUTE
1SMALL LETTER O WITH CIRCUMFLEX AND ACUTE
1CAPITAL LETTER O WITH CIRCUMFLEX AND GRAVE
1SMALL LETTER O WITH CIRCUMFLEX AND GRAVE
1CAPITAL LETTER O WITH CIRCUMFLEX AND HOOK ABOVE
1SMALL LETTER O WITH CIRCUMFLEX AND HOOK ABOVE
1CAPITAL LETTER O WITH CIRCUMFLEX AND TILDE
1SMALL LETTER O WITH CIRCUMFLEX AND TILDE
1CAPITAL LETTER O WITH CIRCUMFLEX AND DOT BELOW
1SMALL LETTER O WITH CIRCUMFLEX AND DOT BELOW
1CAPITAL LETTER O WITH HORN AND ACUTE
1SMALL LETTER O WITH HORN AND ACUTE
1CAPITAL LETTER O WITH HORN AND GRAVE
1SMALL LETTER O WITH HORN AND GRAVE
1CAPITAL LETTER O WITH HORN AND HOOK ABOVE
1SMALL LETTER O WITH HORN AND HOOK ABOVE
1CAPITAL LETTER O WITH HORN AND TILDE
1SMALL LETTER O WITH HORN AND TILDE
1CAPITAL LETTER O WITH HORN AND DOT BELOW
1SMALL LETTER O WITH HORN AND DOT BELOW
1CAPITAL LETTER U WITH DOT BELOW
1SMALL LETTER U WITH DOT BELOW
1CAPITAL LETTER U WITH HOOK ABOVE
1SMALL LETTER U WITH HOOK ABOVE
1CAPITAL LETTER U WITH HORN AND ACUTE
1SMALL LETTER U WITH HORN AND ACUTE
1CAPITAL LETTER U WITH HORN AND GRAVE
1SMALL LETTER U WITH HORN AND GRAVE
1CAPITAL LETTER U WITH HORN AND HOOK ABOVE
1SMALL LETTER U WITH HORN AND HOOK ABOVE
1CAPITAL LETTER U WITH HORN AND TILDE
1SMALL LETTER U WITH HORN AND TILDE
1CAPITAL LETTER U WITH HORN AND DOT BELOW
1SMALL LETTER U WITH HORN AND DOT BELOW
1CAPITAL LETTER Y WITH GRAVE
1SMALL LETTER Y WITH GRAVE
1CAPITAL LETTER Y WITH DOT BELOW
1SMALL LETTER Y WITH DOT BELOW
1CAPITAL LETTER Y WITH HOOK ABOVE
1SMALL LETTER Y WITH HOOK ABOVE
1CAPITAL LETTER Y WITH TILDE
1SMALL LETTER Y WITH TILDE
1CAPITAL LETTER MIDDLE-WELSH LL
1SMALL LETTER MIDDLE-WELSH LL
1CAPITAL LETTER MIDDLE-WELSH V
1SMALL LETTER MIDDLE-WELSH V
1CAPITAL LETTER Y WITH LOOP
1SMALL LETTER Y WITH LOOP
0GREEK SMALL LETTER ALPHA WITH PSILI
5DASIA
5PSILI AND VARIA
5DASIA AND VARIA
5PSILI AND OXIA
5DASIA AND OXIA
5PSILI AND PERISPOMENI
5DASIA AND PERISPOMENI
1CAPITAL LETTER ALPHA WITH PSILI
5DASIA
5PSILI AND VARIA
5DASIA AND VARIA
5PSILI AND OXIA
5DASIA AND OXIA
5PSILI AND PERISPOMENI
5DASIA AND PERISPOMENI
1SMALL LETTER EPSILON WITH PSILI
5DASIA
5PSILI AND VARIA
5DASIA AND VARIA
5PSILI AND OXIA
5DASIA AND OXIA
=1f18
1CAPITAL LETTER EPSILON WITH PSILI
5DASIA
5PSILI AND VARIA
5DASIA AND VARIA
5PSILI AND OXIA
5DASIA AND OXIA
=1f20
1SMALL LETTER ETA WITH PSILI
5DASIA
5PSILI AND VARIA
5DASIA AND VARIA
5PSILI AND OXIA
5DASIA AND OXIA
5PSILI AND PERISPOMENI
5DASIA AND PERISPOMENI
1CAPITAL LETTER ETA WITH PSILI
5DASIA
5PSILI AND VARIA
5DASIA AND VARIA
5PSILI AND OXIA
5DASIA AND OXIA
5PSILI AND PERISPOMENI
5DASIA AND PERISPOMENI
1SMALL LETTER IOTA WITH PSILI
5DASIA
5PSILI AND VARIA
5DASIA AND VARIA
5PSILI AND OXIA
5DASIA AND OXIA
5PSILI AND PERISPOMENI
5DASIA AND PERISPOMENI
1CAPITAL LETTER IOTA WITH PSILI
5DASIA
5PSILI AND VARIA
5DASIA AND VARIA
5PSILI AND OXIA
5DASIA AND OXIA
5PSILI AND PERISPOMENI
5DASIA AND PERISPOMENI
1SMALL LETTER OMICRON WITH PSILI
5DASIA
5PSILI AND VARIA
5DASIA AND VARIA
5PSILI AND OXIA
5DASIA AND OXIA
=1f48
1CAPITAL LETTER OMICRON WITH PSILI
5DASIA
5PSILI AND VARIA
5DASIA AND VARIA
5PSILI AND OXIA
5DASIA AND OXIA
=1f50
1SMALL LETTER UPSILON WITH PSILI
5DASIA
5PSILI AND VARIA
5DASIA AND VARIA
5PSILI AND OXIA
5DASIA AND OXIA
5PSILI AND PERISPOMENI
5DASIA AND PERISPOMENI
=1f59
1CAPITAL LETTER UPSILON WITH DASIA
=1f5b
6AND VARIA
=1f5d
7OXIA
=1f5f
7PERISPOMENI
1SMALL LETTER OMEGA WITH PSILI
5DASIA
5PSILI AND VARIA
5DASIA AND VARIA
5PSILI AND OXIA
5DASIA AND OXIA
5PSILI AND PERISPOMENI
5DASIA AND PERISPOMENI
1CAPITAL LETTER OMEGA WITH PSILI
5DASIA
5PSILI AND VARIA
5DASIA AND VARIA
5PSILI AND OXIA
5DASIA AND OXIA
5PSILI AND PERISPOMENI
5DASIA AND PERISPOMENI
1SMALL LETTER ALPHA WITH VARIA
5OXIA
3EPSILON WITH VARIA
5OXIA
3ETA WITH VARIA
5OXIA
3IOTA WITH VARIA
5OXIA
3OMICRON WITH VARIA
5OXIA
3UPSILON WITH VARIA
5OXIA
3OMEGA WITH VARIA
5OXIA
=1f80
3ALPHA WITH PSILI AND YPOGEGRAMMENI
5DASIA AND YPOGEGRAMMENI
5PSILI AND VARIA AND YPOGEGRAMMENI
5DASIA AND VARIA AND YPOGEGRAMMENI
5PSILI AND OXIA AND YPOGEGRAMMENI
5DASIA AND OXIA AND YPOGEGRAMMENI
5PSILI AND PERISPOMENI AND YPOGEGRAMMENI
5DASIA AND PERISPOMENI AND YPOGEGRAMMENI
1CAPITAL LETTER ALPHA WITH PSILI AND PROSGEGRAMMENI
5DASIA AND PROSGEGRAMMENI
5PSILI AND VARIA AND PROSGEGRAMMENI
5DASIA AND VARIA AND PROSGEGRAMMENI
5PSILI AND OXIA AND PROSGEGRAMMENI
5DASIA AND OXIA AND PROSGEGRAMMENI
5PSILI AND PERISPOMENI AND PROSGEGRAMMENI
5DASIA AND PERISPOMENI AND PROSGEGRAMMENI
1SMALL LETTER ETA WITH PSILI AND YPOGEGRAMMENI
5DASIA AND YPOGEGRAMMENI
5PSILI AND VARIA AND YPOGEGRAMMENI
5DASIA AND VARIA AND YPOGEGRAMMENI
5PSILI AND OXIA AND YPOGEGRAMMENI
5DASIA AND OXIA AND YPOGEGRAMMENI
5PSILI AND PERISPOMENI AND YPOGEGRAMMENI
5DASIA AND PERISPOMENI AND YPOGEGRAMMENI
1CAPITAL LETTER ETA WITH PSILI AND PROSGEGRAMMENI
5DASIA AND PROSGEGRAMMENI
5PSILI AND VARIA AND PROSGEGRAMMENI
5DASIA AND VARIA AND PROSGEGRAMMENI
5PSILI AND OXIA AND PROSGEGRAMMENI
5DASIA AND OXIA AND PROSGEGRAMMENI
5PSILI AND PERISPOMENI AND PROSGEGRAMMENI
5DASIA AND PERISPOMENI AND PROSGEGRAMMENI
1SMALL LETTER OMEGA WITH PSILI AND YPOGEGRAMMENI
5DASIA AND YPOGEGRAMMENI
5PSILI AND VARIA AND YPOGEGRAMMENI
5DASIA AND VARIA AND YPOGEGRAMMENI
5PSILI AND OXIA AND YPOGEGRAMMENI
5DASIA AND OXIA AND YPOGEGRAMMENI
5PSILI AND PERISPOMENI AND YPOGEGRAMMENI
5DASIA AND PERISPOMENI AND YPOGEGRAMMENI
1CAPITAL LETTER OMEGA WITH PSILI AND PROSGEGRAMMENI
5DASIA AND PROSGEGRAMMENI
5PSILI AND VARIA AND PROSGEGRAMMENI
5DASIA AND VARIA AND PROSGEGRAMMENI
5PSILI AND OXIA AND PROSGEGRAMMENI
5DASIA AND OXIA AND PROSGEGRAMMENI
5PSILI AND PERISPOMENI AND PROSGEGRAMMENI
5DASIA AND PERISPOMENI AND PROSGEGRAMMENI
1SMALL LETTER ALPHA WITH VRACHY
5MACRON
5VARIA AND YPOGEGRAMMENI
5YPOGEGRAMMENI
5OXIA AND YPOGEGRAMMENI
=1fb6
5PERISPOMENI
6AND YPOGEGRAMMENI
1CAPITAL LETTER ALPHA WITH VRACHY
5MACRON
5VARIA
5OXIA
5PROSGEGRAMMENI
1KORONIS
1PROSGEGRAMMENI
1PSILI
1PERISPOMENI
1DIALYTIKA AND PERISPOMENI
1SMALL LETTER ETA WITH VARIA AND YPOGEGRAMMENI
5YPOGEGRAMMENI
5OXIA AND YPOGEGRAMMENI
=1fc6
5PERISPOMENI
6AND YPOGEGRAMMENI
1CAPITAL LETTER EPSILON WITH VARIA
5OXIA
3ETA WITH VARIA
5OXIA
5PROSGEGRAMMENI
1PSILI AND VARIA
3OXIA
3PERISPOMENI
1SMALL LETTER IOTA WITH VRACHY
5MACRON
5DIALYTIKA AND VARIA
7OXIA
=1fd6
5PERISPOMENI
5DIALYTIKA AND PERISPOMENI
1CAPITAL LETTER IOTA WITH VRACHY
5MACRON
5VARIA
5OXIA
=1fdd
1DASIA AND VARIA
3OXIA
3PERISPOMENI
1SMALL LETTER UPSILON WITH VRACHY
5MACRON
5DIALYTIKA AND VARIA
7OXIA
3RHO WITH PSILI
5DASIA
3UPSILON WITH PERISPOMENI
5DIALYTIKA AND PERISPOMENI
1CAPITAL LETTER UPSILON WITH VRACHY
5MACRON
5VARIA
5OXIA
3RHO WITH DASIA
1DIALYTIKA AND VARIA
3OXIA
1VARIA
=1ff2
1SMALL LETTER OMEGA WITH VARIA AND YPOGEGRAMMENI
5YPOGEGRAMMENI
5OXIA AND YPOGEGRAMMENI
=1ff6
5PERISPOMENI
6AND YPOGEGRAMMENI
1CAPITAL LETTER OMICRON WITH VARIA
5OXIA
3OMEGA WITH VARIA
5OXIA
5PROSGEGRAMMENI
1OXIA
1DASIA
=2000
0EN QUAD
0EM QUAD
0EN SPACE
0EM SPACE
0THREE-PER-EM SPACE
0FOUR-PER-EM SPACE
0SIX-PER-EM SPACE
0FIGURE SPACE
0PUNCTUATION SPACE
0THIN SPACE
0HAIR SPACE
0ZERO WIDTH SPACE
2NON-JOINER
2JOINER
0LEFT-TO-RIGHT MARK
0RIGHT-TO-LEFT MARK
0HYPHEN
0NON-BREAKING HYPHEN
0FIGURE DASH
0EN DASH
0EM DASH
0HORIZONTAL BAR
0DOUBLE VERTICAL LINE
1LOW LINE
0LEFT SINGLE QUOTATION MARK
0RIGHT SINGLE QUOTATION MARK
0SINGLE LOW-9 QUOTATION MARK
1HIGH-REVERSED-9 QUOTATION MARK
0LEFT DOUBLE QUOTATION MARK
0RIGHT DOUBLE QUOTATION MARK
0DOUBLE LOW-9 QUOTATION MARK
1HIGH-REVERSED-9 QUOTATION MARK
0DAGGER
0DOUBLE DAGGER
0BULLET
0TRIANGULAR BULLET
0ONE DOT LEADER
0TWO DOT LEADER
0HORIZONTAL ELLIPSIS
0HYPHENATION POINT
0LINE SEPARATOR
0PARAGRAPH SEPARATOR
0LEFT-TO-RIGHT EMBEDDING
0RIGHT-TO-LEFT EMBEDDING
0POP DIRECTIONAL FORMATTING
0LEFT-TO-RIGHT OVERRIDE
0RIGHT-TO-LEFT OVERRIDE
0NARROW NO-BREAK SPACE
0PER MILLE SIGN
1TEN THOUSAND SIGN
0PRIME
0DOUBLE PRIME
0TRIPLE PRIME
0REVERSED PRIME
1DOUBLE PRIME
1TRIPLE PRIME
0CARET
0SINGLE LEFT-POINTING ANGLE QUOTATION MARK
1RIGHT-POINTING ANGLE QUOTATION MARK
0REFERENCE MARK
0DOUBLE EXCLAMATION MARK
0INTERROBANG
0OVERLINE
0UNDERTIE
0CHARACTER TIE
0CARET INSERTION POINT
0ASTERISM
0HYPHEN BULLET
0FRACTION SLASH
0LEFT SQUARE BRACKET WITH QUILL
0RIGHT SQUARE BRACKET WITH QUILL
0DOUBLE QUESTION MARK
0QUESTION EXCLAMATION MARK
0EXCLAMATION QUESTION MARK
0TIRONIAN SIGN ET
0REVERSED PILCROW SIGN
0BLACK LEFTWARDS BULLET
1RIGHTWARDS BULLET
0LOW ASTERISK
0REVERSED SEMICOLON
0CLOSE UP
0TWO ASTERISKS ALIGNED VERTICALLY
0COMMERCIAL MINUS SIGN
0SWUNG DASH
0INVERTED UNDERTIE
0FLOWER PUNCTUATION MARK
0THREE DOT PUNCTUATION
0QUADRUPLE PRIME
0FOUR DOT PUNCTUATION"

end Bindery.Text.CharacterName
