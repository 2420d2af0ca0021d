/- Character names, block 4: a row `=hex` sets the code point of the next name, and every other
   row names one character and moves on. The digit that starts a name says how many words it
   shares with the name before. -/
namespace Bindery.Text.CharacterName

def block4 : String :=
  "=29fb
0TRIPLE PLUS
0LEFT-POINTING CURVED ANGLE BRACKET
0RIGHT-POINTING CURVED ANGLE BRACKET
0TINY
0MINY
0N-ARY CIRCLED DOT OPERATOR
2PLUS OPERATOR
2TIMES OPERATOR
1UNION OPERATOR WITH DOT
4PLUS
1SQUARE INTERSECTION OPERATOR
2UNION OPERATOR
0TWO LOGICAL AND OPERATOR
2OR OPERATOR
0N-ARY TIMES OPERATOR
0MODULO TWO SUM
0SUMMATION WITH INTEGRAL
0QUADRUPLE INTEGRAL OPERATOR
0FINITE PART INTEGRAL
0INTEGRAL WITH DOUBLE STROKE
1AVERAGE WITH SLASH
0CIRCULATION FUNCTION
0ANTICLOCKWISE INTEGRATION
0LINE INTEGRATION WITH RECTANGULAR PATH AROUND POLE
3SEMICIRCULAR PATH AROUND POLE
2NOT INCLUDING THE POLE
0INTEGRAL AROUND A POINT OPERATOR
0QUATERNION INTEGRAL OPERATOR
0INTEGRAL WITH LEFTWARDS ARROW WITH HOOK
2TIMES SIGN
2INTERSECTION
2UNION
2OVERBAR
2UNDERBAR
0JOIN
0LARGE LEFT TRIANGLE OPERATOR
0Z NOTATION SCHEMA COMPOSITION
3PIPING
3PROJECTION
0PLUS SIGN WITH SMALL CIRCLE ABOVE
3CIRCUMFLEX ACCENT ABOVE
3TILDE ABOVE
3DOT BELOW
3TILDE BELOW
3SUBSCRIPT TWO
3BLACK TRIANGLE
0MINUS SIGN WITH COMMA ABOVE
3DOT BELOW
3FALLING DOTS
3RISING DOTS
0PLUS SIGN IN LEFT HALF CIRCLE
3RIGHT HALF CIRCLE
0VECTOR OR CROSS PRODUCT
0MULTIPLICATION SIGN WITH DOT ABOVE
3UNDERBAR
0SEMIDIRECT PRODUCT WITH BOTTOM CLOSED
0SMASH PRODUCT
0MULTIPLICATION SIGN IN LEFT HALF CIRCLE
3RIGHT HALF CIRCLE
0CIRCLED MULTIPLICATION SIGN WITH CIRCUMFLEX ACCENT
0MULTIPLICATION SIGN IN DOUBLE CIRCLE
0CIRCLED DIVISION SIGN
0PLUS SIGN IN TRIANGLE
0MINUS SIGN IN TRIANGLE
0MULTIPLICATION SIGN IN TRIANGLE
0INTERIOR PRODUCT
0RIGHTHAND INTERIOR PRODUCT
0Z NOTATION RELATIONAL COMPOSITION
0AMALGAMATION OR COPRODUCT
0INTERSECTION WITH DOT
0UNION WITH MINUS SIGN
2OVERBAR
0INTERSECTION WITH OVERBAR
2LOGICAL AND
0UNION WITH LOGICAL OR
1ABOVE INTERSECTION
0INTERSECTION ABOVE UNION
0UNION ABOVE BAR ABOVE INTERSECTION
0INTERSECTION ABOVE BAR ABOVE UNION
0UNION BESIDE AND JOINED WITH UNION
0INTERSECTION BESIDE AND JOINED WITH INTERSECTION
0CLOSED UNION WITH SERIFS
1INTERSECTION WITH SERIFS
0DOUBLE SQUARE INTERSECTION
2UNION
0CLOSED UNION WITH SERIFS AND SMASH PRODUCT
0LOGICAL AND WITH DOT ABOVE
1OR WITH DOT ABOVE
0DOUBLE LOGICAL AND
2OR
0TWO INTERSECTING LOGICAL AND
3OR
0SLOPING LARGE OR
2AND
0LOGICAL OR OVERLAPPING LOGICAL AND
1AND WITH MIDDLE STEM
1OR WITH MIDDLE STEM
1AND WITH HORIZONTAL DASH
1OR WITH HORIZONTAL DASH
1AND WITH DOUBLE OVERBAR
3UNDERBAR
3DOUBLE UNDERBAR
0SMALL VEE WITH UNDERBAR
0LOGICAL OR WITH DOUBLE OVERBAR
4UNDERBAR
0Z NOTATION DOMAIN ANTIRESTRICTION
2RANGE ANTIRESTRICTION
0EQUALS SIGN WITH DOT BELOW
0IDENTICAL WITH DOT ABOVE
0TRIPLE HORIZONTAL BAR WITH DOUBLE VERTICAL STROKE
4TRIPLE VERTICAL STROKE
0TILDE OPERATOR WITH DOT ABOVE
3RISING DOTS
0SIMILAR MINUS SIMILAR
0CONGRUENT WITH DOT ABOVE
0EQUALS WITH ASTERISK
0ALMOST EQUAL TO WITH CIRCUMFLEX ACCENT
0APPROXIMATELY EQUAL OR EQUAL TO
0EQUALS SIGN ABOVE PLUS SIGN
0PLUS SIGN ABOVE EQUALS SIGN
0EQUALS SIGN ABOVE TILDE OPERATOR
0DOUBLE COLON EQUAL
0TWO CONSECUTIVE EQUALS SIGNS
0THREE CONSECUTIVE EQUALS SIGNS
0EQUALS SIGN WITH TWO DOTS ABOVE AND TWO DOTS BELOW
0EQUIVALENT WITH FOUR DOTS ABOVE
0LESS-THAN WITH CIRCLE INSIDE
0GREATER-THAN WITH CIRCLE INSIDE
0LESS-THAN WITH QUESTION MARK ABOVE
0GREATER-THAN WITH QUESTION MARK ABOVE
0LESS-THAN OR SLANTED EQUAL TO
0GREATER-THAN OR SLANTED EQUAL TO
0LESS-THAN OR SLANTED EQUAL TO WITH DOT INSIDE
0GREATER-THAN OR SLANTED EQUAL TO WITH DOT INSIDE
0LESS-THAN OR SLANTED EQUAL TO WITH DOT ABOVE
0GREATER-THAN OR SLANTED EQUAL TO WITH DOT ABOVE
0LESS-THAN OR SLANTED EQUAL TO WITH DOT ABOVE RIGHT
0GREATER-THAN OR SLANTED EQUAL TO WITH DOT ABOVE LEFT
0LESS-THAN OR APPROXIMATE
0GREATER-THAN OR APPROXIMATE
0LESS-THAN AND SINGLE-LINE NOT EQUAL TO
0GREATER-THAN AND SINGLE-LINE NOT EQUAL TO
0LESS-THAN AND NOT APPROXIMATE
0GREATER-THAN AND NOT APPROXIMATE
0LESS-THAN ABOVE DOUBLE-LINE EQUAL ABOVE GREATER-THAN
0GREATER-THAN ABOVE DOUBLE-LINE EQUAL ABOVE LESS-THAN
0LESS-THAN ABOVE SIMILAR OR EQUAL
0GREATER-THAN ABOVE SIMILAR OR EQUAL
0LESS-THAN ABOVE SIMILAR ABOVE GREATER-THAN
0GREATER-THAN ABOVE SIMILAR ABOVE LESS-THAN
0LESS-THAN ABOVE GREATER-THAN ABOVE DOUBLE-LINE EQUAL
0GREATER-THAN ABOVE LESS-THAN ABOVE DOUBLE-LINE EQUAL
0LESS-THAN ABOVE SLANTED EQUAL ABOVE GREATER-THAN ABOVE SLANTED EQUAL
0GREATER-THAN ABOVE SLANTED EQUAL ABOVE LESS-THAN ABOVE SLANTED EQUAL
0SLANTED EQUAL TO OR LESS-THAN
4GREATER-THAN
4LESS-THAN WITH DOT INSIDE
4GREATER-THAN WITH DOT INSIDE
0DOUBLE-LINE EQUAL TO OR LESS-THAN
4GREATER-THAN
1SLANTED EQUAL TO OR LESS-THAN
5GREATER-THAN
0SIMILAR OR LESS-THAN
2GREATER-THAN
1ABOVE LESS-THAN ABOVE EQUALS SIGN
2GREATER-THAN ABOVE EQUALS SIGN
0DOUBLE NESTED LESS-THAN
2GREATER-THAN
2LESS-THAN WITH UNDERBAR
0GREATER-THAN OVERLAPPING LESS-THAN
1BESIDE LESS-THAN
0LESS-THAN CLOSED BY CURVE
0GREATER-THAN CLOSED BY CURVE
0LESS-THAN CLOSED BY CURVE ABOVE SLANTED EQUAL
0GREATER-THAN CLOSED BY CURVE ABOVE SLANTED EQUAL
0SMALLER THAN
0LARGER THAN
0SMALLER THAN OR EQUAL TO
0LARGER THAN OR EQUAL TO
0EQUALS SIGN WITH BUMPY ABOVE
0PRECEDES ABOVE SINGLE-LINE EQUALS SIGN
0SUCCEEDS ABOVE SINGLE-LINE EQUALS SIGN
0PRECEDES ABOVE SINGLE-LINE NOT EQUAL TO
0SUCCEEDS ABOVE SINGLE-LINE NOT EQUAL TO
0PRECEDES ABOVE EQUALS SIGN
0SUCCEEDS ABOVE EQUALS SIGN
0PRECEDES ABOVE NOT EQUAL TO
0SUCCEEDS ABOVE NOT EQUAL TO
0PRECEDES ABOVE ALMOST EQUAL TO
0SUCCEEDS ABOVE ALMOST EQUAL TO
0PRECEDES ABOVE NOT ALMOST EQUAL TO
0SUCCEEDS ABOVE NOT ALMOST EQUAL TO
0DOUBLE PRECEDES
1SUCCEEDS
0SUBSET WITH DOT
0SUPERSET WITH DOT
0SUBSET WITH PLUS SIGN BELOW
0SUPERSET WITH PLUS SIGN BELOW
0SUBSET WITH MULTIPLICATION SIGN BELOW
0SUPERSET WITH MULTIPLICATION SIGN BELOW
0SUBSET OF OR EQUAL TO WITH DOT ABOVE
0SUPERSET OF OR EQUAL TO WITH DOT ABOVE
0SUBSET OF ABOVE EQUALS SIGN
0SUPERSET OF ABOVE EQUALS SIGN
0SUBSET OF ABOVE TILDE OPERATOR
0SUPERSET OF ABOVE TILDE OPERATOR
0SUBSET OF ABOVE ALMOST EQUAL TO
0SUPERSET OF ABOVE ALMOST EQUAL TO
0SUBSET OF ABOVE NOT EQUAL TO
0SUPERSET OF ABOVE NOT EQUAL TO
0SQUARE LEFT OPEN BOX OPERATOR
1RIGHT OPEN BOX OPERATOR
0CLOSED SUBSET
1SUPERSET
1SUBSET OR EQUAL TO
1SUPERSET OR EQUAL TO
0SUBSET ABOVE SUPERSET
0SUPERSET ABOVE SUBSET
0SUBSET ABOVE SUBSET
0SUPERSET ABOVE SUPERSET
1BESIDE SUBSET
2AND JOINED BY DASH WITH SUBSET
0ELEMENT OF OPENING DOWNWARDS
0PITCHFORK WITH TEE TOP
0TRANSVERSAL INTERSECTION
0FORKING
0NONFORKING
0SHORT LEFT TACK
1DOWN TACK
1UP TACK
0PERPENDICULAR WITH S
0VERTICAL BAR TRIPLE RIGHT TURNSTILE
0DOUBLE VERTICAL BAR LEFT TURNSTILE
0VERTICAL BAR DOUBLE LEFT TURNSTILE
0DOUBLE VERTICAL BAR DOUBLE LEFT TURNSTILE
0LONG DASH FROM LEFT MEMBER OF DOUBLE VERTICAL
0SHORT DOWN TACK WITH OVERBAR
1UP TACK WITH UNDERBAR
3ABOVE SHORT DOWN TACK
0DOUBLE DOWN TACK
1UP TACK
1STROKE NOT SIGN
0REVERSED DOUBLE STROKE NOT SIGN
0DOES NOT DIVIDE WITH REVERSED NEGATION SLASH
0VERTICAL LINE WITH CIRCLE ABOVE
4BELOW
0DOWN TACK WITH CIRCLE BELOW
0PARALLEL WITH HORIZONTAL STROKE
2TILDE OPERATOR
0TRIPLE VERTICAL BAR BINARY RELATION
3WITH HORIZONTAL STROKE
1COLON OPERATOR
1NESTED LESS-THAN
2GREATER-THAN
0DOUBLE-LINE SLANTED LESS-THAN OR EQUAL TO
2GREATER-THAN OR EQUAL TO
0TRIPLE SOLIDUS BINARY RELATION
0LARGE TRIPLE VERTICAL BAR OPERATOR
0DOUBLE SOLIDUS OPERATOR
0WHITE VERTICAL BAR
0N-ARY WHITE VERTICAL BAR
0NORTH EAST WHITE ARROW
1WEST WHITE ARROW
0SOUTH EAST WHITE ARROW
1WEST WHITE ARROW
0LEFT RIGHT WHITE ARROW
0LEFTWARDS BLACK ARROW
0UPWARDS BLACK ARROW
0DOWNWARDS BLACK ARROW
0NORTH EAST BLACK ARROW
1WEST BLACK ARROW
0SOUTH EAST BLACK ARROW
1WEST BLACK ARROW
0LEFT RIGHT BLACK ARROW
0UP DOWN BLACK ARROW
0RIGHTWARDS ARROW WITH TIP DOWNWARDS
4UPWARDS
0LEFTWARDS ARROW WITH TIP DOWNWARDS
4UPWARDS
0SQUARE WITH TOP HALF BLACK
2BOTTOM HALF BLACK
2UPPER RIGHT DIAGONAL HALF BLACK
2LOWER LEFT DIAGONAL HALF BLACK
0DIAMOND WITH LEFT HALF BLACK
2RIGHT HALF BLACK
2TOP HALF BLACK
2BOTTOM HALF BLACK
0DOTTED SQUARE
0BLACK LARGE SQUARE
0WHITE LARGE SQUARE
0BLACK VERY SMALL SQUARE
0WHITE VERY SMALL SQUARE
0BLACK PENTAGON
0WHITE PENTAGON
1HEXAGON
0BLACK HEXAGON
0HORIZONTAL BLACK HEXAGON
0BLACK LARGE CIRCLE
1MEDIUM DIAMOND
0WHITE MEDIUM DIAMOND
0BLACK MEDIUM LOZENGE
0WHITE MEDIUM LOZENGE
0BLACK SMALL DIAMOND
2LOZENGE
0WHITE SMALL LOZENGE
0BLACK HORIZONTAL ELLIPSE
0WHITE HORIZONTAL ELLIPSE
0BLACK VERTICAL ELLIPSE
0WHITE VERTICAL ELLIPSE
0LEFT ARROW WITH SMALL CIRCLE
0THREE LEFTWARDS ARROWS
0LEFT ARROW WITH CIRCLED PLUS
0LONG LEFTWARDS SQUIGGLE ARROW
0LEFTWARDS TWO-HEADED ARROW WITH VERTICAL STROKE
4DOUBLE VERTICAL STROKE
3FROM BAR
2TRIPLE DASH ARROW
1ARROW WITH DOTTED STEM
3TAIL WITH VERTICAL STROKE
5DOUBLE VERTICAL STROKE
1TWO-HEADED ARROW WITH TAIL
5WITH VERTICAL STROKE
6DOUBLE VERTICAL STROKE
1ARROW THROUGH X
0WAVE ARROW POINTING DIRECTLY LEFT
0EQUALS SIGN ABOVE LEFTWARDS ARROW
0REVERSE TILDE OPERATOR ABOVE LEFTWARDS ARROW
0LEFTWARDS ARROW ABOVE REVERSE ALMOST EQUAL TO
0RIGHTWARDS ARROW THROUGH GREATER-THAN
3SUPERSET
0LEFTWARDS QUADRUPLE ARROW
0RIGHTWARDS QUADRUPLE ARROW
0REVERSE TILDE OPERATOR ABOVE RIGHTWARDS ARROW
0RIGHTWARDS ARROW ABOVE REVERSE ALMOST EQUAL TO
0TILDE OPERATOR ABOVE LEFTWARDS ARROW
0LEFTWARDS ARROW ABOVE ALMOST EQUAL TO
3REVERSE TILDE OPERATOR
0RIGHTWARDS ARROW ABOVE REVERSE TILDE OPERATOR
0DOWNWARDS TRIANGLE-HEADED ZIGZAG ARROW
0SHORT SLANTED NORTH ARROW
1BACKSLANTED SOUTH ARROW
0WHITE MEDIUM STAR
0BLACK SMALL STAR
0WHITE SMALL STAR
0BLACK RIGHT-POINTING PENTAGON
0WHITE RIGHT-POINTING PENTAGON
0HEAVY LARGE CIRCLE
1OVAL WITH OVAL INSIDE
1CIRCLE WITH CIRCLE INSIDE
2
1CIRCLED SALTIRE
0SLANTED NORTH ARROW WITH HOOKED HEAD
0BACKSLANTED SOUTH ARROW WITH HOOKED TAIL
0SLANTED NORTH ARROW WITH HORIZONTAL TAIL
0BACKSLANTED SOUTH ARROW WITH HORIZONTAL TAIL
0BENT ARROW POINTING DOWNWARDS THEN NORTH EAST
0SHORT BENT ARROW POINTING DOWNWARDS THEN NORTH EAST
0LEFTWARDS TRIANGLE-HEADED ARROW
0UPWARDS TRIANGLE-HEADED ARROW
0RIGHTWARDS TRIANGLE-HEADED ARROW
0DOWNWARDS TRIANGLE-HEADED ARROW
0LEFT RIGHT TRIANGLE-HEADED ARROW
0UP DOWN TRIANGLE-HEADED ARROW
0NORTH WEST TRIANGLE-HEADED ARROW
1EAST TRIANGLE-HEADED ARROW
0SOUTH EAST TRIANGLE-HEADED ARROW
1WEST TRIANGLE-HEADED ARROW
0LEFTWARDS TRIANGLE-HEADED DASHED ARROW
0UPWARDS TRIANGLE-HEADED DASHED ARROW
0RIGHTWARDS TRIANGLE-HEADED DASHED ARROW
0DOWNWARDS TRIANGLE-HEADED DASHED ARROW
0CLOCKWISE TRIANGLE-HEADED OPEN CIRCLE ARROW
0ANTICLOCKWISE TRIANGLE-HEADED OPEN CIRCLE ARROW
0LEFTWARDS TRIANGLE-HEADED ARROW TO BAR
0UPWARDS TRIANGLE-HEADED ARROW TO BAR
0RIGHTWARDS TRIANGLE-HEADED ARROW TO BAR
0DOWNWARDS TRIANGLE-HEADED ARROW TO BAR
=2b76
0NORTH WEST TRIANGLE-HEADED ARROW TO BAR
1EAST TRIANGLE-HEADED ARROW TO BAR
0SOUTH EAST TRIANGLE-HEADED ARROW TO BAR
1WEST TRIANGLE-HEADED ARROW TO BAR
0LEFTWARDS TRIANGLE-HEADED ARROW WITH DOUBLE HORIZONTAL STROKE
0UPWARDS TRIANGLE-HEADED ARROW WITH DOUBLE HORIZONTAL STROKE
0RIGHTWARDS TRIANGLE-HEADED ARROW WITH DOUBLE HORIZONTAL STROKE
0DOWNWARDS TRIANGLE-HEADED ARROW WITH DOUBLE HORIZONTAL STROKE
0HORIZONTAL TAB KEY
0VERTICAL TAB KEY
0LEFTWARDS TRIANGLE-HEADED ARROW OVER RIGHTWARDS TRIANGLE-HEADED ARROW
0UPWARDS TRIANGLE-HEADED ARROW LEFTWARDS OF DOWNWARDS TRIANGLE-HEADED ARROW
0RIGHTWARDS TRIANGLE-HEADED ARROW OVER LEFTWARDS TRIANGLE-HEADED ARROW
0DOWNWARDS TRIANGLE-HEADED ARROW LEFTWARDS OF UPWARDS TRIANGLE-HEADED ARROW
0LEFTWARDS TRIANGLE-HEADED PAIRED ARROWS
0UPWARDS TRIANGLE-HEADED PAIRED ARROWS
0RIGHTWARDS TRIANGLE-HEADED PAIRED ARROWS
0DOWNWARDS TRIANGLE-HEADED PAIRED ARROWS
0LEFTWARDS BLACK CIRCLED WHITE ARROW
0UPWARDS BLACK CIRCLED WHITE ARROW
0RIGHTWARDS BLACK CIRCLED WHITE ARROW
0DOWNWARDS BLACK CIRCLED WHITE ARROW
0ANTICLOCKWISE TRIANGLE-HEADED RIGHT U-SHAPED ARROW
2BOTTOM U-SHAPED ARROW
2LEFT U-SHAPED ARROW
2TOP U-SHAPED ARROW
0RETURN LEFT
1RIGHT
0NEWLINE LEFT
1RIGHT
0FOUR CORNER ARROWS CIRCLING ANTICLOCKWISE
0RIGHTWARDS BLACK ARROW
=2b97
0SYMBOL FOR TYPE A ELECTRONICS
0THREE-D TOP-LIGHTED LEFTWARDS EQUILATERAL ARROWHEAD
1RIGHT-LIGHTED UPWARDS EQUILATERAL ARROWHEAD
1TOP-LIGHTED RIGHTWARDS EQUILATERAL ARROWHEAD
1LEFT-LIGHTED DOWNWARDS EQUILATERAL ARROWHEAD
0BLACK LEFTWARDS EQUILATERAL ARROWHEAD
1UPWARDS EQUILATERAL ARROWHEAD
1RIGHTWARDS EQUILATERAL ARROWHEAD
1DOWNWARDS EQUILATERAL ARROWHEAD
0DOWNWARDS TRIANGLE-HEADED ARROW WITH LONG TIP LEFTWARDS
6RIGHTWARDS
0UPWARDS TRIANGLE-HEADED ARROW WITH LONG TIP LEFTWARDS
6RIGHTWARDS
0LEFTWARDS TRIANGLE-HEADED ARROW WITH LONG TIP UPWARDS
0RIGHTWARDS TRIANGLE-HEADED ARROW WITH LONG TIP UPWARDS
0LEFTWARDS TRIANGLE-HEADED ARROW WITH LONG TIP DOWNWARDS
0RIGHTWARDS TRIANGLE-HEADED ARROW WITH LONG TIP DOWNWARDS
0BLACK CURVED DOWNWARDS AND LEFTWARDS ARROW
4RIGHTWARDS ARROW
2UPWARDS AND LEFTWARDS ARROW
4RIGHTWARDS ARROW
2LEFTWARDS AND UPWARDS ARROW
2RIGHTWARDS AND UPWARDS ARROW
2LEFTWARDS AND DOWNWARDS ARROW
2RIGHTWARDS AND DOWNWARDS ARROW
0RIBBON ARROW DOWN LEFT
3RIGHT
2UP LEFT
3RIGHT
2LEFT UP
2RIGHT UP
2LEFT DOWN
2RIGHT DOWN
0UPWARDS WHITE ARROW FROM BAR WITH HORIZONTAL BAR
0UP ARROWHEAD IN A RECTANGLE BOX
0OVERLAPPING WHITE SQUARES
2AND BLACK SQUARES
1BLACK SQUARES
0BALLOT BOX WITH LIGHT X
0CIRCLED X
1BOLD X
0BLACK SQUARE CENTRED
1DIAMOND CENTRED
0TURNED BLACK PENTAGON
0HORIZONTAL BLACK OCTAGON
0BLACK OCTAGON
1MEDIUM UP-POINTING TRIANGLE CENTRED
2DOWN-POINTING TRIANGLE CENTRED
2LEFT-POINTING TRIANGLE CENTRED
2RIGHT-POINTING TRIANGLE CENTRED
0NEPTUNE FORM TWO
0TOP HALF BLACK CIRCLE
0BOTTOM HALF BLACK CIRCLE
0LIGHT FOUR POINTED BLACK CUSP
0ROTATED LIGHT FOUR POINTED BLACK CUSP
0WHITE FOUR POINTED CUSP
0ROTATED WHITE FOUR POINTED CUSP
0SQUARE POSITION INDICATOR
0UNCERTAINTY SIGN
0GROUP MARK
0PLUTO FORM TWO
2THREE
2FOUR
2FIVE
0TRANSPLUTO
0PROSERPINA
0ASTRAEA
0HYGIEA
0PHOLUS
0NESSUS
0WHITE MOON SELENA
0BLACK DIAMOND ON CROSS
0TRUE LIGHT MOON ARTA
0CUPIDO
0HADES
0ZEUS
0KRONOS
0APOLLON
0ADMETOS
0VULCANUS
0POSEIDON
0LEFT HALF BLACK STAR
0RIGHT HALF BLACK STAR
0STAR WITH LEFT HALF BLACK
2RIGHT HALF BLACK
0LEFTWARDS TWO-HEADED ARROW WITH TRIANGLE ARROWHEADS
0UPWARDS TWO-HEADED ARROW WITH TRIANGLE ARROWHEADS
0RIGHTWARDS TWO-HEADED ARROW WITH TRIANGLE ARROWHEADS
0DOWNWARDS TWO-HEADED ARROW WITH TRIANGLE ARROWHEADS
0ERIS FORM ONE
2TWO
0SEDNA
0RUSSIAN ASTROLOGICAL SYMBOL VIGINTILE
3NOVILE
3QUINTILE
3BINOVILE
3SENTAGON
3TREDECILE
0EQUALS SIGN WITH INFINITY BELOW
0UNITED SYMBOL
0SEPARATED SYMBOL
0DOUBLED SYMBOL
0PASSED SYMBOL
0REVERSED RIGHT ANGLE
0HELLSCHREIBER PAUSE SYMBOL
0GLAGOLITIC CAPITAL LETTER AZU
3BUKY
3VEDE
3GLAGOLI
3DOBRO
3YESTU
3ZHIVETE
3DZELO
3ZEMLJA
3IZHE
3INITIAL IZHE
3I
3DJERVI
3KAKO
3LJUDIJE
3MYSLITE
3NASHI
3ONU
3POKOJI
3RITSI
3SLOVO
3TVRIDO
3UKU
3FRITU
3HERU
3OTU
3PE
3SHTA
3TSI
3CHRIVI
3SHA
3YERU
3YERI
3YATI
3SPIDERY HA
3YU
3SMALL YUS
5WITH TAIL
3YO
3IOTATED SMALL YUS
3BIG YUS
3IOTATED BIG YUS
3FITA
3IZHITSA
3SHTAPIC
3TROKUTASTI A
3LATINATE MYSLITE
3CAUDATE CHRIVI
1SMALL LETTER AZU
3BUKY
3VEDE
3GLAGOLI
3DOBRO
3YESTU
3ZHIVETE
3DZELO
3ZEMLJA
3IZHE
3INITIAL IZHE
3I
3DJERVI
3KAKO
3LJUDIJE
3MYSLITE
3NASHI
3ONU
3POKOJI
3RITSI
3SLOVO
3TVRIDO
3UKU
3FRITU
3HERU
3OTU
3PE
3SHTA
3TSI
3CHRIVI
3SHA
3YERU
3YERI
3YATI
3SPIDERY HA
3YU
3SMALL YUS
5WITH TAIL
3YO
3IOTATED SMALL YUS
3BIG YUS
3IOTATED BIG YUS
3FITA
3IZHITSA
3SHTAPIC
3TROKUTASTI A
3LATINATE MYSLITE
3CAUDATE CHRIVI
0LATIN CAPITAL LETTER L WITH DOUBLE BAR
1SMALL LETTER L WITH DOUBLE BAR
1CAPITAL LETTER L WITH MIDDLE TILDE
3P WITH STROKE
3R WITH TAIL
1SMALL LETTER A WITH STROKE
3T WITH DIAGONAL STROKE
1CAPITAL LETTER H WITH DESCENDER
1SMALL LETTER H WITH DESCENDER
1CAPITAL LETTER K WITH DESCENDER
1SMALL LETTER K WITH DESCENDER
1CAPITAL LETTER Z WITH DESCENDER
1SMALL LETTER Z WITH DESCENDER
1CAPITAL LETTER ALPHA
3M WITH HOOK
3TURNED A
4ALPHA
1SMALL LETTER V WITH RIGHT HOOK
1CAPITAL LETTER W WITH HOOK
1SMALL LETTER W WITH HOOK
3V WITH CURL
1CAPITAL LETTER HALF H
1SMALL LETTER HALF H
3TAILLESS PHI
3E WITH NOTCH
3TURNED R WITH TAIL
3O WITH LOW RING INSIDE
1LETTER SMALL CAPITAL TURNED E
1SUBSCRIPT SMALL LETTER J
0MODIFIER LETTER CAPITAL V
0LATIN CAPITAL LETTER S WITH SWASH TAIL
3Z WITH SWASH TAIL
0COPTIC CAPITAL LETTER ALFA
1SMALL LETTER ALFA
1CAPITAL LETTER VIDA
1SMALL LETTER VIDA
1CAPITAL LETTER GAMMA
1SMALL LETTER GAMMA
1CAPITAL LETTER DALDA
1SMALL LETTER DALDA
1CAPITAL LETTER EIE
1SMALL LETTER EIE
1CAPITAL LETTER SOU
1SMALL LETTER SOU
1CAPITAL LETTER ZATA
1SMALL LETTER ZATA
1CAPITAL LETTER HATE
1SMALL LETTER HATE
1CAPITAL LETTER THETHE
1SMALL LETTER THETHE
1CAPITAL LETTER IAUDA
1SMALL LETTER IAUDA
1CAPITAL LETTER KAPA
1SMALL LETTER KAPA
1CAPITAL LETTER LAULA
1SMALL LETTER LAULA
1CAPITAL LETTER MI
1SMALL LETTER MI
1CAPITAL LETTER NI
1SMALL LETTER NI
1CAPITAL LETTER KSI
1SMALL LETTER KSI
1CAPITAL LETTER O
1SMALL LETTER O
1CAPITAL LETTER PI
1SMALL LETTER PI
1CAPITAL LETTER RO
1SMALL LETTER RO
1CAPITAL LETTER SIMA
1SMALL LETTER SIMA
1CAPITAL LETTER TAU
1SMALL LETTER TAU
1CAPITAL LETTER UA
1SMALL LETTER UA
1CAPITAL LETTER FI
1SMALL LETTER FI
1CAPITAL LETTER KHI
1SMALL LETTER KHI
1CAPITAL LETTER PSI
1SMALL LETTER PSI
1CAPITAL LETTER OOU
1SMALL LETTER OOU
1CAPITAL LETTER DIALECT-P ALEF
1SMALL LETTER DIALECT-P ALEF
1CAPITAL LETTER OLD COPTIC AIN
1SMALL LETTER OLD COPTIC AIN
1CAPITAL LETTER CRYPTOGRAMMIC EIE
1SMALL LETTER CRYPTOGRAMMIC EIE
1CAPITAL LETTER DIALECT-P KAPA
1SMALL LETTER DIALECT-P KAPA
1CAPITAL LETTER DIALECT-P NI
1SMALL LETTER DIALECT-P NI
1CAPITAL LETTER CRYPTOGRAMMIC NI
1SMALL LETTER CRYPTOGRAMMIC NI
1CAPITAL LETTER OLD COPTIC OOU
1SMALL LETTER OLD COPTIC OOU
1CAPITAL LETTER SAMPI
1SMALL LETTER SAMPI
1CAPITAL LETTER CROSSED SHEI
1SMALL LETTER CROSSED SHEI
1CAPITAL LETTER OLD COPTIC SHEI
1SMALL LETTER OLD COPTIC SHEI
1CAPITAL LETTER OLD COPTIC ESH
1SMALL LETTER OLD COPTIC ESH
1CAPITAL LETTER AKHMIMIC KHEI
1SMALL LETTER AKHMIMIC KHEI
1CAPITAL LETTER DIALECT-P HORI
1SMALL LETTER DIALECT-P HORI
1CAPITAL LETTER OLD COPTIC HORI
1SMALL LETTER OLD COPTIC HORI
1CAPITAL LETTER OLD COPTIC HA
1SMALL LETTER OLD COPTIC HA
1CAPITAL LETTER L-SHAPED HA
1SMALL LETTER L-SHAPED HA
1CAPITAL LETTER OLD COPTIC HEI
1SMALL LETTER OLD COPTIC HEI
1CAPITAL LETTER OLD COPTIC HAT
1SMALL LETTER OLD COPTIC HAT
1CAPITAL LETTER OLD COPTIC GANGIA
1SMALL LETTER OLD COPTIC GANGIA
1CAPITAL LETTER OLD COPTIC DJA
1SMALL LETTER OLD COPTIC DJA
1CAPITAL LETTER OLD COPTIC SHIMA
1SMALL LETTER OLD COPTIC SHIMA
1CAPITAL LETTER OLD NUBIAN SHIMA
1SMALL LETTER OLD NUBIAN SHIMA
1CAPITAL LETTER OLD NUBIAN NGI
1SMALL LETTER OLD NUBIAN NGI
1CAPITAL LETTER OLD NUBIAN NYI
1SMALL LETTER OLD NUBIAN NYI
1CAPITAL LETTER OLD NUBIAN WAU
1SMALL LETTER OLD NUBIAN WAU
1SYMBOL KAI
2MI RO
2PI RO
2STAUROS
2TAU RO
2KHI RO
2SHIMA SIMA
1CAPITAL LETTER CRYPTOGRAMMIC SHEI
1SMALL LETTER CRYPTOGRAMMIC SHEI
1CAPITAL LETTER CRYPTOGRAMMIC GANGIA
1SMALL LETTER CRYPTOGRAMMIC GANGIA
1COMBINING NI ABOVE
2SPIRITUS ASPER
3LENIS
1CAPITAL LETTER BOHAIRIC KHEI
1SMALL LETTER BOHAIRIC KHEI
=2cf9
1OLD NUBIAN FULL STOP
3DIRECT QUESTION MARK
3INDIRECT QUESTION MARK
3VERSE DIVIDER
1FRACTION ONE HALF
1FULL STOP
1MORPHOLOGICAL DIVIDER
0GEORGIAN SMALL LETTER AN
3BAN
3GAN
3DON
3EN
3VIN
3ZEN
3TAN
3IN
3KAN
3LAS
3MAN
3NAR
3ON
3PAR
3ZHAR
3RAE
3SAN
3TAR
3UN
3PHAR
3KHAR
3GHAN
3QAR
3SHIN
3CHIN
3CAN
3JIL
3CIL
3CHAR
3XAN
3JHAN
3HAE
3HE
3HIE
3WE
3HAR
3HOE
=2d27
3YN
=2d2d
3AEN
=2d30
0TIFINAGH LETTER YA
2YAB
2YABH
2YAG
2YAGHH
2BERBER ACADEMY YAJ
2YAJ
2YAD
2YADH
2YADD
2YADDH
2YEY
2YAF
2YAK
2TUAREG YAK
2YAKHH
2YAH
2BERBER ACADEMY YAH
2TUAREG YAH
2YAHH
2YAA
2YAKH
2TUAREG YAKH
2YAQ
2TUAREG YAQ
2YI
2YAZH
2AHAGGAR YAZH
2TUAREG YAZH
2YAL
2YAM
2YAN
2TUAREG YAGN
3YANG
2YAP
2YU
2YAR
2YARR
2YAGH
2TUAREG YAGH
2AYER YAGH
2YAS
2YASS
2YASH
2YAT
2YATH
2YACH
2YATT
2YAV
2YAW
2YAY
2YAZ
2TAWELLEMET YAZ
2YAZZ
2YE
2YO
=2d6f
1MODIFIER LETTER LABIALIZATION MARK
1SEPARATOR MARK
=2d7f
1CONSONANT JOINER
0ETHIOPIC SYLLABLE LOA
2MOA
2ROA
2SOA
2SHOA
2BOA
2TOA
2COA
2NOA
2NYOA
2GLOTTAL OA
2ZOA
2DOA
2DDOA
2JOA
2THOA
2CHOA
2PHOA
2POA
2GGWA
2GGWI
2GGWEE
2GGWE
=2da0
2SSA
2SSU
2SSI
2SSAA
2SSEE
2SSE
2SSO
=2da8
2CCA
2CCU
2CCI
2CCAA
2CCEE
2CCE
2CCO
=2db0
2ZZA
2ZZU
2ZZI
2ZZAA
2ZZEE
2ZZE
2ZZO
=2db8
2CCHA
2CCHU
2CCHI
2CCHAA
2CCHEE
2CCHE
2CCHO
=2dc0
2QYA
2QYU
2QYI
2QYAA
2QYEE
2QYE
2QYO
=2dc8
2KYA
2KYU
2KYI
2KYAA
2KYEE
2KYE
2KYO
=2dd0
2XYA
2XYU
2XYI
2XYAA
2XYEE
2XYE
2XYO
=2dd8
2GYA
2GYU
2GYI
2GYAA
2GYEE
2GYE
2GYO
=2de0
0COMBINING CYRILLIC LETTER BE
3VE
3GHE
3DE
3ZHE
3ZE
3KA
3EL
3EM
3EN
3O
3PE
3ER
3ES
3TE
3HA
3TSE
3CHE
3SHA
3SHCHA
3FITA
3ES-TE
3A
3IE
3DJERV
3MONOGRAPH UK
3YAT
3YU
3IOTIFIED A
3LITTLE YUS
3BIG YUS
3IOTIFIED BIG YUS
0RIGHT ANGLE SUBSTITUTION MARKER
2DOTTED SUBSTITUTION MARKER
0LEFT SUBSTITUTION BRACKET
0RIGHT SUBSTITUTION BRACKET
0LEFT DOTTED SUBSTITUTION BRACKET
0RIGHT DOTTED SUBSTITUTION BRACKET
0RAISED INTERPOLATION MARKER
1DOTTED INTERPOLATION MARKER
0DOTTED TRANSPOSITION MARKER
0LEFT TRANSPOSITION BRACKET
0RIGHT TRANSPOSITION BRACKET
0RAISED SQUARE
0LEFT RAISED OMISSION BRACKET
0RIGHT RAISED OMISSION BRACKET
0EDITORIAL CORONIS
0PARAGRAPHOS
0FORKED PARAGRAPHOS
0REVERSED FORKED PARAGRAPHOS
0HYPODIASTOLE
0DOTTED OBELOS
0DOWNWARDS ANCORA
0UPWARDS ANCORA
0DOTTED RIGHT-POINTING ANGLE
0DOUBLE OBLIQUE HYPHEN
0INVERTED INTERROBANG
0PALM BRANCH
0HYPHEN WITH DIAERESIS
0TILDE WITH RING ABOVE
0LEFT LOW PARAPHRASE BRACKET
0RIGHT LOW PARAPHRASE BRACKET
0TILDE WITH DOT ABOVE
3BELOW
0LEFT VERTICAL BAR WITH QUILL
0RIGHT VERTICAL BAR WITH QUILL
0TOP LEFT HALF BRACKET
1RIGHT HALF BRACKET
0BOTTOM LEFT HALF BRACKET
1RIGHT HALF BRACKET
0LEFT SIDEWAYS U BRACKET
0RIGHT SIDEWAYS U BRACKET
0LEFT DOUBLE PARENTHESIS
0RIGHT DOUBLE PARENTHESIS
0TWO DOTS OVER ONE DOT PUNCTUATION
0ONE DOT OVER TWO DOTS PUNCTUATION
0SQUARED FOUR DOT PUNCTUATION
0FIVE DOT MARK
0REVERSED QUESTION MARK
0VERTICAL TILDE
0RING POINT
0WORD SEPARATOR MIDDLE DOT
0TURNED COMMA
0RAISED DOT
1COMMA
0TURNED SEMICOLON
0DAGGER WITH LEFT GUARD
2RIGHT GUARD
0TURNED DAGGER
0TOP HALF SECTION SIGN
0TWO-EM DASH
0THREE-EM DASH
0STENOGRAPHIC FULL STOP
0VERTICAL SIX DOTS
0WIGGLY VERTICAL LINE
0CAPITULUM
0DOUBLE HYPHEN
0REVERSED COMMA
0DOUBLE LOW-REVERSED-9 QUOTATION MARK
0DASH WITH LEFT UPTURN
0DOUBLE SUSPENSION MARK
0INVERTED LOW KAVYKA
3WITH KAVYKA ABOVE
0LOW KAVYKA
2WITH DOT
0DOUBLE STACKED COMMA
0DOTTED SOLIDUS
0TRIPLE DAGGER
0MEDIEVAL COMMA
0PARAGRAPHUS MARK
0PUNCTUS ELEVATUS MARK
0CORNISH VERSE DIVIDER
0CROSS PATTY WITH RIGHT CROSSBAR
3LEFT CROSSBAR
0TIRONIAN SIGN CAPITAL ET
0MEDIEVAL EXCLAMATION MARK
1QUESTION MARK
0LEFT SQUARE BRACKET WITH STROKE
0RIGHT SQUARE BRACKET WITH STROKE
0LEFT SQUARE BRACKET WITH DOUBLE STROKE
0RIGHT SQUARE BRACKET WITH DOUBLE STROKE
0TOP HALF LEFT PARENTHESIS
2RIGHT PARENTHESIS
0BOTTOM HALF LEFT PARENTHESIS
2RIGHT PARENTHESIS
0OBLIQUE HYPHEN
=2e80
0CJK RADICAL REPEAT
2CLIFF
2SECOND ONE
3TWO
3THREE
2PERSON
2BOX
2TABLE
2KNIFE ONE
3TWO
2DIVINATION
2SEAL
2SMALL ONE
3TWO
2LAME ONE
3TWO
3THREE
3FOUR
2SNAKE
2THREAD
2SNOUT ONE
3TWO
2HEART ONE
3TWO
2HAND
2RAP
=2e9b
2CHOKE
2SUN
2MOON
2DEATH
2MOTHER
2CIVILIAN
2WATER ONE
3TWO
2FIRE
2PAW ONE
3TWO
2SIMPLIFIED HALF TREE TRUNK
2COW
2DOG
2JADE
2BOLT OF CLOTH
2EYE
2SPIRIT ONE
3TWO
2BAMBOO
2SILK
2C-SIMPLIFIED SILK
2NET ONE
3TWO
3THREE
3FOUR
2MESH
2SHEEP
2RAM
2EWE
2OLD
2BRUSH ONE
3TWO
2MEAT
2MORTAR
2GRASS ONE
3TWO
3THREE
2TIGER
2CLOTHES
2WEST ONE
3TWO
2C-SIMPLIFIED SEE
2SIMPLIFIED HORN
2HORN
2C-SIMPLIFIED SPEECH
3SHELL
2FOOT
2C-SIMPLIFIED CART
2SIMPLIFIED WALK
2WALK ONE
3TWO
2CITY
2C-SIMPLIFIED GOLD
2LONG ONE
3TWO
2C-SIMPLIFIED LONG
3GATE
2MOUND ONE
3TWO
2RAIN
2BLUE
2C-SIMPLIFIED TANNED LEATHER
3LEAF
3WIND
3FLY
2EAT ONE
3TWO
3THREE
2C-SIMPLIFIED EAT
2HEAD
2C-SIMPLIFIED HORSE
2BONE
2GHOST
2C-SIMPLIFIED FISH
3BIRD
3SALT
2SIMPLIFIED WHEAT
3YELLOW
2C-SIMPLIFIED FROG
2J-SIMPLIFIED EVEN
2C-SIMPLIFIED EVEN
2J-SIMPLIFIED TOOTH
2C-SIMPLIFIED TOOTH
2J-SIMPLIFIED DRAGON
2C-SIMPLIFIED DRAGON
2TURTLE
2J-SIMPLIFIED TURTLE
2C-SIMPLIFIED TURTLE
=2f00
0KANGXI RADICAL ONE
2LINE
2DOT
2SLASH
2SECOND
2HOOK
2TWO
2LID
2MAN
2LEGS
2ENTER
2EIGHT
2DOWN BOX
2COVER
2ICE
2TABLE
2OPEN BOX
2KNIFE
2POWER
2WRAP
2SPOON
2RIGHT OPEN BOX
2HIDING ENCLOSURE
2TEN
2DIVINATION
2SEAL
2CLIFF
2PRIVATE
2AGAIN
2MOUTH
2ENCLOSURE
2EARTH
2SCHOLAR
2GO
3SLOWLY
2EVENING
2BIG
2WOMAN
2CHILD
2ROOF
2INCH
2SMALL
2LAME
2CORPSE
2SPROUT
2MOUNTAIN
2RIVER
2WORK
2ONESELF
2TURBAN
2DRY
2SHORT THREAD
2DOTTED CLIFF
2LONG STRIDE
2TWO HANDS
2SHOOT
2BOW
2SNOUT
2BRISTLE
2STEP
2HEART
2HALBERD
2DOOR
2HAND
2BRANCH
2RAP
2SCRIPT
2DIPPER
2AXE
2SQUARE
2NOT
2SUN
2SAY
2MOON
2TREE
2LACK
2STOP
2DEATH
2WEAPON
2DO NOT
2COMPARE
2FUR
2CLAN
2STEAM
2WATER
2FIRE
2CLAW
2FATHER
2DOUBLE X
2HALF TREE TRUNK
2SLICE
2FANG
2COW
2DOG
2PROFOUND
2JADE
2MELON
2TILE
2SWEET
2LIFE
2USE
2FIELD
2BOLT OF CLOTH
2SICKNESS
2DOTTED TENT
2WHITE
2SKIN
2DISH
2EYE
2SPEAR
2ARROW
2STONE
2SPIRIT
2TRACK
2GRAIN
2CAVE
2STAND
2BAMBOO
2RICE
2SILK
2JAR
2NET
2SHEEP
2FEATHER
2OLD
2AND
2PLOW
2EAR
2BRUSH
2MEAT
2MINISTER
2SELF
2ARRIVE
2MORTAR
2TONGUE
2OPPOSE
2BOAT
2STOPPING
2COLOR
2GRASS
2TIGER
2INSECT
2BLOOD
2WALK ENCLOSURE
2CLOTHES
2WEST
2SEE
2HORN
2SPEECH
2VALLEY
2BEAN
2PIG
2BADGER
2SHELL
2RED
2RUN
2FOOT
2BODY
2CART
2BITTER
2MORNING
2WALK
2CITY
2WINE
2DISTINGUISH
2VILLAGE
2GOLD
2LONG
2GATE
2MOUND
2SLAVE
2SHORT TAILED BIRD
2RAIN
2BLUE
2WRONG
2FACE
2LEATHER
2TANNED LEATHER
2LEEK
2SOUND
2LEAF
2WIND
2FLY
2EAT
2HEAD
2FRAGRANT
2HORSE
2BONE
2TALL
2HAIR
2FIGHT
2SACRIFICIAL WINE
2CAULDRON
2GHOST
2FISH
2BIRD
2SALT
2DEER
2WHEAT
2HEMP
2YELLOW
2MILLET
2BLACK
2EMBROIDERY
2FROG
2TRIPOD
2DRUM
2RAT
2NOSE
2EVEN
2TOOTH
2DRAGON
2TURTLE
2FLUTE
=2ff0
0IDEOGRAPHIC DESCRIPTION CHARACTER LEFT TO RIGHT
3ABOVE TO BELOW
3LEFT TO MIDDLE AND RIGHT
3ABOVE TO MIDDLE AND BELOW
3FULL SURROUND
3SURROUND FROM ABOVE
5BELOW
5LEFT
5UPPER LEFT
6RIGHT
5LOWER LEFT
3OVERLAID
=3000
1SPACE
1COMMA
1FULL STOP
0DITTO MARK
0JAPANESE INDUSTRIAL STANDARD SYMBOL
0IDEOGRAPHIC ITERATION MARK
1CLOSING MARK
1NUMBER ZERO
0LEFT ANGLE BRACKET
0RIGHT ANGLE BRACKET
0LEFT DOUBLE ANGLE BRACKET
0RIGHT DOUBLE ANGLE BRACKET
0LEFT CORNER BRACKET
0RIGHT CORNER BRACKET
0LEFT WHITE CORNER BRACKET
0RIGHT WHITE CORNER BRACKET
0LEFT BLACK LENTICULAR BRACKET
0RIGHT BLACK LENTICULAR BRACKET
0POSTAL MARK
0GETA MARK
0LEFT TORTOISE SHELL BRACKET
0RIGHT TORTOISE SHELL BRACKET
0LEFT WHITE LENTICULAR BRACKET
0RIGHT WHITE LENTICULAR BRACKET
0LEFT WHITE TORTOISE SHELL BRACKET
0RIGHT WHITE TORTOISE SHELL BRACKET
0LEFT WHITE SQUARE BRACKET
0RIGHT WHITE SQUARE BRACKET
0WAVE DASH
0REVERSED DOUBLE PRIME QUOTATION MARK
0DOUBLE PRIME QUOTATION MARK
0LOW DOUBLE PRIME QUOTATION MARK
0POSTAL MARK FACE
0HANGZHOU NUMERAL ONE
2TWO
2THREE
2FOUR
2FIVE
2SIX
2SEVEN
2EIGHT
2NINE
0IDEOGRAPHIC LEVEL TONE MARK
1RISING TONE MARK
1DEPARTING TONE MARK
1ENTERING TONE MARK
0HANGUL SINGLE DOT TONE MARK
1DOUBLE DOT TONE MARK
0WAVY DASH
0VERTICAL KANA REPEAT MARK
3WITH VOICED SOUND MARK
3MARK UPPER HALF
3WITH VOICED SOUND MARK UPPER HALF
3MARK LOWER HALF
0CIRCLED POSTAL MARK
0IDEOGRAPHIC TELEGRAPH LINE FEED SEPARATOR SYMBOL
0HANGZHOU NUMERAL TEN
2TWENTY
2THIRTY
0VERTICAL IDEOGRAPHIC ITERATION MARK
0MASU MARK
0PART ALTERNATION MARK
0IDEOGRAPHIC VARIATION INDICATOR
1HALF FILL SPACE
=3041
0HIRAGANA LETTER SMALL A
2A
2SMALL I
2I
2SMALL U
2U
2SMALL E
2E
2SMALL O
2O
2KA
2GA
2KI
2GI
2KU
2GU
2KE
2GE
2KO
2GO
2SA
2ZA
2SI
2ZI
2SU
2ZU
2SE
2ZE
2SO
2ZO
2TA
2DA
2TI
2DI
2SMALL TU
2TU
2DU
2TE
2DE
2TO
2DO
2NA
2NI
2NU
2NE
2NO
2HA
2BA
2PA
2HI
2BI
2PI
2HU
2BU
2PU
2HE
2BE
2PE
2HO
2BO
2PO
2MA
2MI
2MU
2ME
2MO
2SMALL YA
2YA
2SMALL YU
2YU
2SMALL YO
2YO
2RA
2RI
2RU
2RE
2RO
2SMALL WA
2WA
2WI
2WE
2WO
2N
2VU
2SMALL KA
3KE
=3099
0COMBINING KATAKANA-HIRAGANA VOICED SOUND MARK
2SEMI-VOICED SOUND MARK
0KATAKANA-HIRAGANA VOICED SOUND MARK
1SEMI-VOICED SOUND MARK
0HIRAGANA ITERATION MARK
1VOICED ITERATION MARK
1DIGRAPH YORI
0KATAKANA-HIRAGANA DOUBLE HYPHEN
0KATAKANA LETTER SMALL A
2A
2SMALL I
2I
2SMALL U
2U
2SMALL E
2E
2SMALL O
2O
2KA
2GA
2KI
2GI
2KU
2GU
2KE
2GE
2KO
2GO
2SA
2ZA
2SI
2ZI
2SU
2ZU
2SE
2ZE
2SO
2ZO
2TA
2DA
2TI
2DI
2SMALL TU
2TU
2DU
2TE
2DE
2TO
2DO
2NA
2NI
2NU
2NE
2NO
2HA
2BA
2PA
2HI
2BI
2PI
2HU
2BU
2PU
2HE
2BE
2PE
2HO
2BO
2PO
2MA
2MI
2MU
2ME
2MO
2SMALL YA
2YA
2SMALL YU
2YU
2SMALL YO
2YO
2RA
2RI
2RU
2RE
2RO
2SMALL WA
2WA
2WI
2WE
2WO
2N
2VU
2SMALL KA
3KE
2VA
2VI
2VE
2VO
1MIDDLE DOT
0KATAKANA-HIRAGANA PROLONGED SOUND MARK
0KATAKANA ITERATION MARK
1VOICED ITERATION MARK
1DIGRAPH KOTO
=3105
0BOPOMOFO LETTER B
2P
2M
2F
2D
2T
2N
2L
2G
2K
2H
2J
2Q
2X
2ZH
2CH
2SH
2R
2Z
2C
2S
2A
2O
2E
2EH
2AI
2EI
2AU
2OU
2AN
2EN
2ANG
2ENG
2ER
2I
2U
2IU
2V
2NG
2GN
2IH
2O WITH DOT ABOVE
2NN
=3131
0HANGUL LETTER KIYEOK
2SSANGKIYEOK
2KIYEOK-SIOS
2NIEUN
2NIEUN-CIEUC
2NIEUN-HIEUH
2TIKEUT
2SSANGTIKEUT
2RIEUL
2RIEUL-KIYEOK
2RIEUL-MIEUM
2RIEUL-PIEUP
2RIEUL-SIOS
2RIEUL-THIEUTH
2RIEUL-PHIEUPH
2RIEUL-HIEUH
2MIEUM
2PIEUP
2SSANGPIEUP
2PIEUP-SIOS
2SIOS
2SSANGSIOS
2IEUNG
2CIEUC
2SSANGCIEUC
2CHIEUCH
2KHIEUKH
2THIEUTH
2PHIEUPH
2HIEUH
2A
2AE
2YA
2YAE
2EO
2E
2YEO
2YE
2O
2WA
2WAE
2OE
2YO
2U
2WEO
2WE
2WI
2YU
2EU
2YI
2I
1FILLER
1LETTER SSANGNIEUN
2NIEUN-TIKEUT
2NIEUN-SIOS
2NIEUN-PANSIOS
2RIEUL-KIYEOK-SIOS
2RIEUL-TIKEUT
2RIEUL-PIEUP-SIOS
2RIEUL-PANSIOS
2RIEUL-YEORINHIEUH
2MIEUM-PIEUP
2MIEUM-SIOS
2MIEUM-PANSIOS
2KAPYEOUNMIEUM
2PIEUP-KIYEOK
2PIEUP-TIKEUT
2PIEUP-SIOS-KIYEOK
2PIEUP-SIOS-TIKEUT
2PIEUP-CIEUC
2PIEUP-THIEUTH
2KAPYEOUNPIEUP
2KAPYEOUNSSANGPIEUP
2SIOS-KIYEOK
2SIOS-NIEUN
2SIOS-TIKEUT
2SIOS-PIEUP
2SIOS-CIEUC
2PANSIOS
2SSANGIEUNG
2YESIEUNG
2YESIEUNG-SIOS
2YESIEUNG-PANSIOS
2KAPYEOUNPHIEUPH
2SSANGHIEUH
2YEORINHIEUH
2YO-YA
2YO-YAE
2YO-I
2YU-YEO
2YU-YE
2YU-I
2ARAEA
2ARAEAE
=3190
0IDEOGRAPHIC ANNOTATION LINKING MARK
2REVERSE MARK
2ONE MARK
2TWO MARK
2THREE MARK
2FOUR MARK
2TOP MARK
2MIDDLE MARK
2BOTTOM MARK
2FIRST MARK
2SECOND MARK
2THIRD MARK
2FOURTH MARK
2HEAVEN MARK
2EARTH MARK
2MAN MARK
0BOPOMOFO LETTER BU
2ZI
2JI
2GU
2EE
2ENN
2OO
2ONN
2IR
2ANN
2INN
2UNN
2IM
2NGG
2AINN
2AUNN
2AM
2OM
2ONG
2INNN
1FINAL LETTER P
3T
3K
3H
1LETTER GH
2LH
2ZY
1FINAL LETTER G
1LETTER GW
2KW
2OE
2AH
0CJK STROKE T
2WG
2XG
2BXG
2SW
2HZZ
2HZG
2HP
2HZWG
2SZWG
2HZT
2HZZP
2HPWG
2HZW
2HZZZ
2N
2H
2S
2P
2SP
2D
2HZ
2HG
2SZ
2SWZ
2ST
2SG
2PD
2PZ
2TN
2SZZ
2SWG
2HXWG
2HZZZG
2PG
2Q
=31f0
0KATAKANA LETTER SMALL KU
3SI
3SU
3TO
3NU
3HA
3HI
3HU
3HE
3HO
3MU
3RA
3RI
3RU
3RE
3RO
0PARENTHESIZED HANGUL KIYEOK
2NIEUN
2TIKEUT
2RIEUL
2MIEUM
2PIEUP
2SIOS
2IEUNG
2CIEUC
2CHIEUCH
2KHIEUKH
2THIEUTH
2PHIEUPH
2HIEUH
2KIYEOK A
2NIEUN A
2TIKEUT A
2RIEUL A
2MIEUM A
2PIEUP A
2SIOS A
2IEUNG A
2CIEUC A
2CHIEUCH A
2KHIEUKH A
2THIEUTH A
2PHIEUPH A
2HIEUH A
2CIEUC U
1KOREAN CHARACTER OJEON
3O HU
=3220
1IDEOGRAPH ONE
2TWO
2THREE
2FOUR
2FIVE
2SIX
2SEVEN
2EIGHT
2NINE
2TEN
2MOON
2FIRE
2WATER
2WOOD
2METAL
2EARTH
2SUN
2STOCK
2HAVE
2SOCIETY
2NAME
2SPECIAL
2FINANCIAL
2CONGRATULATION
2LABOR
2REPRESENT
2CALL
2STUDY
2SUPERVISE
2ENTERPRISE
2RESOURCE
2ALLIANCE
2FESTIVAL
2REST
2SELF
2REACH
0CIRCLED IDEOGRAPH QUESTION
2KINDERGARTEN
2SCHOOL
2KOTO
1NUMBER TEN ON BLACK SQUARE
2TWENTY ON BLACK SQUARE
2THIRTY ON BLACK SQUARE
2FORTY ON BLACK SQUARE
2FIFTY ON BLACK SQUARE
2SIXTY ON BLACK SQUARE
2SEVENTY ON BLACK SQUARE
2EIGHTY ON BLACK SQUARE
0PARTNERSHIP SIGN
0CIRCLED NUMBER TWENTY ONE
3TWO
3THREE
3FOUR
3FIVE
3SIX
3SEVEN
3EIGHT
3NINE
2THIRTY
3ONE
3TWO
3THREE
3FOUR
3FIVE
1HANGUL KIYEOK
2NIEUN
2TIKEUT
2RIEUL
2MIEUM
2PIEUP
2SIOS
2IEUNG
2CIEUC
2CHIEUCH
2KHIEUKH
2THIEUTH
2PHIEUPH
2HIEUH
2KIYEOK A
2NIEUN A
2TIKEUT A
2RIEUL A
2MIEUM A
2PIEUP A
2SIOS A
2IEUNG A
2CIEUC A
2CHIEUCH A
2KHIEUKH A
2THIEUTH A
2PHIEUPH A
2HIEUH A
1KOREAN CHARACTER CHAMKO
3JUEUI
1HANGUL IEUNG U
0KOREAN STANDARD SYMBOL
0CIRCLED IDEOGRAPH ONE
2TWO
2THREE
2FOUR
2FIVE
2SIX
2SEVEN
2EIGHT
2NINE
2TEN
2MOON
2FIRE
2WATER
2WOOD
2METAL
2EARTH
2SUN
2STOCK
2HAVE
2SOCIETY
2NAME
2SPECIAL
2FINANCIAL
2CONGRATULATION
2LABOR
2SECRET
2MALE
2FEMALE
2SUITABLE
2EXCELLENT
2PRINT
2ATTENTION
2ITEM
2REST
2COPY
2CORRECT
2HIGH
2CENTRE
2LOW
2LEFT
2RIGHT
2MEDICINE
2RELIGION
2STUDY
2SUPERVISE
2ENTERPRISE
2RESOURCE
2ALLIANCE
2NIGHT
1NUMBER THIRTY SIX
3SEVEN
3EIGHT
3NINE
2FORTY
3ONE
3TWO
3THREE
3FOUR
3FIVE
3SIX
3SEVEN
3EIGHT
3NINE
2FIFTY
0IDEOGRAPHIC TELEGRAPH SYMBOL FOR JANUARY
4FEBRUARY
4MARCH
4APRIL
4MAY
4JUNE
4JULY
4AUGUST
4SEPTEMBER
4OCTOBER
4NOVEMBER
4DECEMBER
0SQUARE HG
1ERG
1EV
0LIMITED LIABILITY SIGN
0CIRCLED KATAKANA A
2I
2U
2E
2O
2KA
2KI
2KU
2KE
2KO
2SA
2SI
2SU
2SE
2SO
2TA
2TI
2TU
2TE
2TO
2NA
2NI
2NU
2NE
2NO
2HA
2HI
2HU
2HE
2HO
2MA
2MI
2MU
2ME
2MO
2YA
2YU
2YO
2RA
2RI
2RU
2RE
2RO
2WA
2WI
2WE
2WO
0SQUARE ERA NAME REIWA
1APAATO
1ARUHUA
1ANPEA
1AARU
1ININGU
1INTI
1UON
1ESUKUUDO
1EEKAA
1ONSU
1OOMU
1KAIRI
1KARATTO
1KARORII
1GARON
1GANMA
1GIGA
1GINII
1KYURII
1GIRUDAA
1KIRO
1KIROGURAMU
1KIROMEETORU
1KIROWATTO
1GURAMU
1GURAMUTON
1KURUZEIRO
1KUROONE
1KEESU
1KORUNA
1KOOPO
1SAIKURU
1SANTIIMU
1SIRINGU
1SENTI
1SENTO
1DAASU
1DESI
1DORU
1TON
1NANO
1NOTTO
1HAITU
1PAASENTO
1PAATU
1BAARERU
1PIASUTORU
1PIKURU
1PIKO
1BIRU
1HUARADDO
1HUIITO
1BUSSYERU
1HURAN
1HEKUTAARU
1PESO
1PENIHI
1HERUTU
1PENSU
1PEEZI
1BEETA
1POINTO
1BORUTO
1HON
1PONDO
1HOORU
1HOON
1MAIKURO
1MAIRU
1MAHHA
1MARUKU
1MANSYON
1MIKURON
1MIRI
1MIRIBAARU
1MEGA
1MEGATON
1MEETORU
1YAADO
1YAARU
1YUAN
1RITTORU
1RIRA
1RUPII
1RUUBURU
1REMU
1RENTOGEN
1WATTO
0IDEOGRAPHIC TELEGRAPH SYMBOL FOR HOUR ZERO
5ONE
5TWO
5THREE
5FOUR
5FIVE
5SIX
5SEVEN
5EIGHT
5NINE
5TEN
5ELEVEN
5TWELVE
5THIRTEEN
5FOURTEEN
5FIFTEEN
5SIXTEEN
5SEVENTEEN
5EIGHTEEN
5NINETEEN
5TWENTY
5TWENTY-ONE
5TWENTY-TWO
5TWENTY-THREE
5TWENTY-FOUR
0SQUARE HPA
1DA
1AU
1BAR
1OV
1PC
1DM
2SQUARED
2CUBED
1IU
1ERA NAME HEISEI
3SYOUWA
3TAISYOU
3MEIZI
1CORPORATION
1PA AMPS
1NA
1MU A
1MA
1KA
1KB
1MB
1GB
1CAL
1KCAL
1PF
1NF
1MU F
2G
1MG
1KG
1HZ
1KHZ
1MHZ
1GHZ
1THZ
1MU L
1ML
1DL
1KL
1FM
1NM
1MU M
1MM
1CM
1KM
1MM SQUARED
1CM SQUARED
1M SQUARED
1KM SQUARED
1MM CUBED
1CM CUBED
1M CUBED
1KM CUBED
1M OVER S
4SQUARED
1PA
1KPA
1MPA
1GPA
1RAD
2OVER S
4SQUARED
1PS
1NS
1MU S
1MS
1PV
1NV
1MU V
1MV
1KV
1MV MEGA
1PW
1NW
1MU W
1MW
1KW
1MW MEGA
1K OHM
1M OHM
1AM
1BQ
1CC
1CD
1C OVER KG
1CO
1DB
1GY
1HA
1HP
1IN
1KK
1KM CAPITAL
1KT
1LM
1LN
1LOG
1LX
1MB SMALL
1MIL
1MOL
1PH
1PM
1PPM
1PR
1SR
1SV
1WB
1V OVER M
1A OVER M
0IDEOGRAPHIC TELEGRAPH SYMBOL FOR DAY ONE
5TWO
5THREE
5FOUR
5FIVE
5SIX
5SEVEN
5EIGHT
5NINE
5TEN
5ELEVEN
5TWELVE
5THIRTEEN
5FOURTEEN
5FIFTEEN
5SIXTEEN
5SEVENTEEN
5EIGHTEEN
5NINETEEN
5TWENTY
5TWENTY-ONE
5TWENTY-TWO
5TWENTY-THREE
5TWENTY-FOUR
5TWENTY-FIVE
5TWENTY-SIX
5TWENTY-SEVEN
5TWENTY-EIGHT
5TWENTY-NINE
5THIRTY
5THIRTY-ONE
0SQUARE GAL
=4dc0
0HEXAGRAM FOR THE CREATIVE HEAVEN
3RECEPTIVE EARTH
2DIFFICULTY AT THE BEGINNING
2YOUTHFUL FOLLY
2WAITING
2CONFLICT
2THE ARMY
2HOLDING TOGETHER
2SMALL TAMING
2TREADING
2PEACE
2STANDSTILL
2FELLOWSHIP
2GREAT POSSESSION
2MODESTY
2ENTHUSIASM
2FOLLOWING
2WORK ON THE DECAYED
2APPROACH
2CONTEMPLATION
2BITING THROUGH
2GRACE
2SPLITTING APART
2RETURN
2INNOCENCE
2GREAT TAMING
2MOUTH CORNERS
2GREAT PREPONDERANCE
2THE ABYSMAL WATER
3CLINGING FIRE
2INFLUENCE
2DURATION
2RETREAT
2GREAT POWER
2PROGRESS
2DARKENING OF THE LIGHT
2THE FAMILY
2OPPOSITION
2OBSTRUCTION
2DELIVERANCE
2DECREASE
2INCREASE
2BREAKTHROUGH
2COMING TO MEET
2GATHERING TOGETHER
2PUSHING UPWARD
2OPPRESSION
2THE WELL
2REVOLUTION
2THE CAULDRON
3AROUSING THUNDER
3KEEPING STILL MOUNTAIN
2DEVELOPMENT
2THE MARRYING MAIDEN
2ABUNDANCE
2THE WANDERER
3GENTLE WIND
3JOYOUS LAKE
2DISPERSION
2LIMITATION
2INNER TRUTH
2SMALL PREPONDERANCE
2AFTER COMPLETION
2BEFORE COMPLETION
=a000
0YI SYLLABLE IT
2IX
2I
2IP
2IET
2IEX
2IE
2IEP
2AT
2AX
2A
2AP
2UOX
2UO
2UOP
2OT
2OX
2O
2OP
2EX
2E
2WU
2BIT
2BIX
2BI
2BIP
2BIET
2BIEX
2BIE
2BIEP
2BAT
2BAX
2BA
2BAP
2BUOX
2BUO
2BUOP
2BOT
2BOX
2BO
2BOP
2BEX
2BE
2BEP
2BUT
2BUX
2BU
2BUP
2BURX
2BUR
2BYT
2BYX
2BY
2BYP
2BYRX
2BYR
2PIT
2PIX
2PI
2PIP
2PIEX
2PIE
2PIEP
2PAT
2PAX
2PA
2PAP
2PUOX
2PUO
2PUOP
2POT
2POX
2PO
2POP
2PUT
2PUX
2PU
2PUP
2PURX
2PUR
2PYT
2PYX
2PY
2PYP
2PYRX
2PYR
2BBIT
2BBIX
2BBI
2BBIP
2BBIET
2BBIEX
2BBIE
2BBIEP
2BBAT
2BBAX
2BBA
2BBAP
2BBUOX
2BBUO
2BBUOP
2BBOT
2BBOX
2BBO
2BBOP
2BBEX
2BBE
2BBEP
2BBUT
2BBUX
2BBU
2BBUP
2BBURX
2BBUR
2BBYT
2BBYX
2BBY
2BBYP
2NBIT
2NBIX
2NBI
2NBIP
2NBIEX
2NBIE
2NBIEP
2NBAT
2NBAX
2NBA
2NBAP
2NBOT
2NBOX
2NBO
2NBOP
2NBUT
2NBUX
2NBU
2NBUP
2NBURX
2NBUR
2NBYT
2NBYX
2NBY
2NBYP
2NBYRX
2NBYR
2HMIT
2HMIX
2HMI
2HMIP
2HMIEX
2HMIE
2HMIEP
2HMAT
2HMAX
2HMA
2HMAP
2HMUOX
2HMUO
2HMUOP
2HMOT
2HMOX
2HMO
2HMOP
2HMUT
2HMUX
2HMU
2HMUP
2HMURX
2HMUR
2HMYX
2HMY
2HMYP
2HMYRX
2HMYR
2MIT
2MIX
2MI
2MIP
2MIEX
2MIE
2MIEP
2MAT
2MAX
2MA
2MAP
2MUOT
2MUOX
2MUO
2MUOP
2MOT
2MOX
2MO
2MOP
2MEX
2ME
2MUT
2MUX
2MU
2MUP
2MURX
2MUR
2MYT
2MYX
2MY
2MYP
2FIT
2FIX
2FI
2FIP
2FAT
2FAX
2FA
2FAP
2FOX
2FO
2FOP
2FUT
2FUX
2FU
2FUP
2FURX
2FUR
2FYT
2FYX
2FY
2FYP
2VIT
2VIX
2VI
2VIP
2VIET
2VIEX
2VIE
2VIEP
2VAT
2VAX
2VA
2VAP
2VOT
2VOX
2VO
2VOP
2VEX
2VEP
2VUT
2VUX
2VU
2VUP
2VURX
2VUR
2VYT
2VYX
2VY
2VYP
2VYRX
2VYR
2DIT
2DIX
2DI
2DIP
2DIEX
2DIE
2DIEP
2DAT
2DAX
2DA
2DAP
2DUOX
2DUO
2DOT
2DOX
2DO
2DOP
2DEX
2DE
2DEP
2DUT
2DUX
2DU
2DUP
2DURX
2DUR
2TIT
2TIX
2TI
2TIP
2TIEX
2TIE
2TIEP
2TAT
2TAX
2TA
2TAP
2TUOT
2TUOX
2TUO
2TUOP
2TOT
2TOX
2TO
2TOP
2TEX
2TE
2TEP
2TUT
2TUX
2TU
2TUP
2TURX
2TUR
2DDIT
2DDIX
2DDI
2DDIP
2DDIEX
2DDIE
2DDIEP
2DDAT
2DDAX
2DDA
2DDAP
2DDUOX
2DDUO
2DDUOP
2DDOT
2DDOX
2DDO
2DDOP
2DDEX
2DDE
2DDEP
2DDUT
2DDUX
2DDU
2DDUP
2DDURX
2DDUR
2NDIT
2NDIX
2NDI
2NDIP
2NDIEX
2NDIE
2NDAT
2NDAX
2NDA
2NDAP
2NDOT
2NDOX
2NDO
2NDOP
2NDEX
2NDE
2NDEP
2NDUT
2NDUX
2NDU
2NDUP
2NDURX
2NDUR
2HNIT
2HNIX
2HNI
2HNIP
2HNIET
2HNIEX
2HNIE
2HNIEP
2HNAT
2HNAX
2HNA
2HNAP
2HNUOX
2HNUO
2HNOT
2HNOX
2HNOP
2HNEX
2HNE
2HNEP
2HNUT
2NIT
2NIX
2NI
2NIP
2NIEX
2NIE
2NIEP
2NAX
2NA
2NAP
2NUOX
2NUO
2NUOP
2NOT
2NOX
2NO
2NOP
2NEX
2NE
2NEP
2NUT
2NUX
2NU
2NUP
2NURX
2NUR
2HLIT
2HLIX
2HLI
2HLIP
2HLIEX
2HLIE
2HLIEP
2HLAT
2HLAX
2HLA
2HLAP
2HLUOX
2HLUO
2HLUOP
2HLOX
2HLO
2HLOP
2HLEX
2HLE
2HLEP
2HLUT
2HLUX
2HLU
2HLUP
2HLURX
2HLUR
2HLYT
2HLYX
2HLY
2HLYP
2HLYRX
2HLYR
2LIT
2LIX
2LI
2LIP
2LIET
2LIEX
2LIE
2LIEP
2LAT
2LAX
2LA
2LAP
2LUOT
2LUOX
2LUO
2LUOP
2LOT
2LOX
2LO
2LOP
2LEX
2LE
2LEP
2LUT
2LUX
2LU
2LUP
2LURX
2LUR
2LYT
2LYX
2LY
2LYP
2LYRX
2LYR
2GIT
2GIX
2GI
2GIP
2GIET
2GIEX
2GIE
2GIEP
2GAT
2GAX
2GA
2GAP
2GUOT
2GUOX
2GUO
2GUOP
2GOT
2GOX
2GO
2GOP
2GET
2GEX
2GE
2GEP
2GUT
2GUX
2GU
2GUP
2GURX
2GUR
2KIT
2KIX
2KI
2KIP
2KIEX
2KIE
2KIEP
2KAT
2KAX
2KA
2KAP
2KUOX
2KUO
2KUOP
2KOT
2KOX
2KO
2KOP
2KET
2KEX
2KE
2KEP
2KUT
2KUX
2KU
2KUP
2KURX
2KUR
2GGIT
2GGIX
2GGI
2GGIEX
2GGIE
2GGIEP
2GGAT
2GGAX
2GGA
2GGAP
2GGUOT
2GGUOX
2GGUO
2GGUOP
2GGOT
2GGOX
2GGO
2GGOP
2GGET
2GGEX
2GGE
2GGEP
2GGUT
2GGUX
2GGU
2GGUP
2GGURX
2GGUR
2MGIEX
2MGIE
2MGAT
2MGAX
2MGA
2MGAP
2MGUOX
2MGUO
2MGUOP
2MGOT
2MGOX
2MGO
2MGOP
2MGEX
2MGE
2MGEP
2MGUT
2MGUX
2MGU
2MGUP
2MGURX
2MGUR
2HXIT
2HXIX
2HXI
2HXIP
2HXIET
2HXIEX
2HXIE
2HXIEP
2HXAT
2HXAX
2HXA
2HXAP
2HXUOT
2HXUOX
2HXUO
2HXUOP
2HXOT
2HXOX
2HXO
2HXOP
2HXEX
2HXE
2HXEP
2NGIEX
2NGIE
2NGIEP
2NGAT
2NGAX
2NGA
2NGAP
2NGUOT
2NGUOX
2NGUO
2NGOT
2NGOX
2NGO
2NGOP
2NGEX
2NGE
2NGEP
2HIT
2HIEX
2HIE
2HAT
2HAX
2HA
2HAP
2HUOT
2HUOX
2HUO
2HUOP
2HOT
2HOX
2HO
2HOP
2HEX
2HE
2HEP
2WAT
2WAX
2WA
2WAP
2WUOX
2WUO
2WUOP
2WOX
2WO
2WOP
2WEX
2WE
2WEP
2ZIT
2ZIX
2ZI
2ZIP
2ZIEX
2ZIE
2ZIEP
2ZAT
2ZAX
2ZA
2ZAP
2ZUOX
2ZUO
2ZUOP
2ZOT
2ZOX
2ZO
2ZOP
2ZEX
2ZE
2ZEP
2ZUT
2ZUX
2ZU
2ZUP
2ZURX
2ZUR
2ZYT
2ZYX
2ZY
2ZYP
2ZYRX
2ZYR
2CIT
2CIX
2CI
2CIP
2CIET
2CIEX
2CIE
2CIEP
2CAT
2CAX
2CA
2CAP
2CUOX
2CUO
2CUOP
2COT
2COX
2CO
2COP
2CEX
2CE
2CEP
2CUT
2CUX
2CU
2CUP
2CURX
2CUR
2CYT
2CYX
2CY
2CYP
2CYRX
2CYR
2ZZIT
2ZZIX
2ZZI
2ZZIP
2ZZIET
2ZZIEX
2ZZIE
2ZZIEP
2ZZAT
2ZZAX
2ZZA
2ZZAP
2ZZOX
2ZZO
2ZZOP
2ZZEX
2ZZE
2ZZEP
2ZZUX
2ZZU
2ZZUP
2ZZURX
2ZZUR
2ZZYT
2ZZYX
2ZZY
2ZZYP
2ZZYRX
2ZZYR
2NZIT
2NZIX
2NZI
2NZIP
2NZIEX
2NZIE
2NZIEP
2NZAT
2NZAX
2NZA
2NZAP
2NZUOX
2NZUO
2NZOX
2NZOP
2NZEX
2NZE
2NZUX
2NZU
2NZUP
2NZURX
2NZUR
2NZYT
2NZYX
2NZY
2NZYP
2NZYRX
2NZYR
2SIT
2SIX
2SI
2SIP
2SIEX
2SIE
2SIEP
2SAT
2SAX
2SA
2SAP
2SUOX
2SUO
2SUOP
2SOT
2SOX
2SO
2SOP
2SEX
2SE
2SEP
2SUT
2SUX
2SU
2SUP
2SURX
2SUR
2SYT
2SYX
2SY
2SYP
2SYRX
2SYR
2SSIT
2SSIX
2SSI
2SSIP
2SSIEX
2SSIE
2SSIEP
2SSAT
2SSAX
2SSA
2SSAP
2SSOT
2SSOX
2SSO
2SSOP
2SSEX
2SSE
2SSEP
2SSUT
2SSUX
2SSU
2SSUP
2SSYT
2SSYX
2SSY
2SSYP
2SSYRX
2SSYR
2ZHAT
2ZHAX
2ZHA
2ZHAP
2ZHUOX
2ZHUO
2ZHUOP
2ZHOT
2ZHOX
2ZHO
2ZHOP
2ZHET
2ZHEX
2ZHE
2ZHEP
2ZHUT
2ZHUX
2ZHU
2ZHUP
2ZHURX
2ZHUR
2ZHYT
2ZHYX
2ZHY
2ZHYP
2ZHYRX
2ZHYR
2CHAT
2CHAX
2CHA
2CHAP
2CHUOT
2CHUOX
2CHUO
2CHUOP
2CHOT
2CHOX
2CHO
2CHOP
2CHET
2CHEX
2CHE
2CHEP
2CHUX
2CHU
2CHUP
2CHURX
2CHUR
2CHYT
2CHYX
2CHY
2CHYP
2CHYRX
2CHYR
2RRAX
2RRA
2RRUOX
2RRUO
2RROT
2RROX
2RRO
2RROP
2RRET
2RREX
2RRE
2RREP
2RRUT
2RRUX
2RRU
2RRUP
2RRURX
2RRUR
2RRYT
2RRYX
2RRY
2RRYP
2RRYRX
2RRYR
2NRAT
2NRAX
2NRA
2NRAP
2NROX
2NRO
2NROP
2NRET
2NREX
2NRE
2NREP
2NRUT
2NRUX
2NRU
2NRUP
2NRURX
2NRUR
2NRYT
2NRYX
2NRY
2NRYP
2NRYRX
2NRYR
2SHAT
2SHAX
2SHA
2SHAP
2SHUOX
2SHUO
2SHUOP
2SHOT
2SHOX
2SHO
2SHOP
2SHET
2SHEX
2SHE
2SHEP
2SHUT
2SHUX
2SHU
2SHUP
2SHURX
2SHUR
2SHYT
2SHYX
2SHY
2SHYP
2SHYRX
2SHYR
2RAT
2RAX
2RA
2RAP
2RUOX
2RUO
2RUOP
2ROT
2ROX
2RO
2ROP
2REX
2RE
2REP
2RUT
2RUX
2RU
2RUP
2RURX
2RUR
2RYT
2RYX
2RY
2RYP
2RYRX
2RYR
2JIT
2JIX
2JI
2JIP
2JIET
2JIEX
2JIE
2JIEP
2JUOT
2JUOX
2JUO
2JUOP
2JOT
2JOX
2JO
2JOP
2JUT
2JUX
2JU
2JUP
2JURX
2JUR
2JYT
2JYX
2JY
2JYP
2JYRX
2JYR
2QIT
2QIX
2QI
2QIP
2QIET
2QIEX
2QIE
2QIEP
2QUOT
2QUOX
2QUO
2QUOP
2QOT
2QOX
2QO
2QOP
2QUT
2QUX
2QU
2QUP
2QURX
2QUR
2QYT
2QYX
2QY
2QYP
2QYRX
2QYR
2JJIT
2JJIX
2JJI
2JJIP
2JJIET
2JJIEX
2JJIE
2JJIEP
2JJUOX
2JJUO
2JJUOP
2JJOT
2JJOX
2JJO
2JJOP
2JJUT
2JJUX
2JJU
2JJUP
2JJURX
2JJUR
2JJYT
2JJYX
2JJY
2JJYP
2NJIT
2NJIX
2NJI
2NJIP
2NJIET
2NJIEX
2NJIE
2NJIEP
2NJUOX
2NJUO
2NJOT
2NJOX
2NJO
2NJOP
2NJUX
2NJU
2NJUP
2NJURX
2NJUR
2NJYT
2NJYX
2NJY
2NJYP
2NJYRX
2NJYR
2NYIT
2NYIX
2NYI
2NYIP
2NYIET
2NYIEX
2NYIE
2NYIEP
2NYUOX
2NYUO
2NYUOP
2NYOT
2NYOX
2NYO
2NYOP
2NYUT
2NYUX
2NYU
2NYUP
2XIT
2XIX
2XI
2XIP
2XIET
2XIEX
2XIE
2XIEP
2XUOX
2XUO
2XOT
2XOX
2XO
2XOP
2XYT
2XYX
2XY
2XYP
2XYRX
2XYR
2YIT
2YIX
2YI
2YIP
2YIET
2YIEX
2YIE
2YIEP
2YUOT
2YUOX
2YUO
2YUOP
2YOT
2YOX
2YO
2YOP
2YUT
2YUX
2YU
2YUP
2YURX
2YUR
2YYT
2YYX
2YY
2YYP
2YYRX
2YYR
=a490
1RADICAL QOT
2LI
2KIT
2NYIP
2CYP
2SSI
2GGOP
2GEP
2MI
2HXIT
2LYR
2BBUT
2MOP
2YO
2PUT
2HXUO
2TAT
2GA
2ZUP
2CYT
2DDUR
2BUR
2GGUO
2NYOP
2TU
2OP
2JJUT
2ZOT
2PYT
2HMO
2YIT
2VUR
2SHY
2VEP
2ZA
2JO
2NZUP
2JJY
2GOT
2JJIE
2WO
2DU
2SHUR
2LIE
2CY
2CUOP
2CIP
2HXOP
2SHAT
2ZUR
2SHOP
2CHE
2ZZIET
2NBIE
2KE
=a4d0
0LISU LETTER BA
2PA
2PHA
2DA
2TA
2THA
2GA
2KA
2KHA
2JA
2CA
2CHA
2DZA
2TSA
2TSHA
2MA
2NA
2LA
2SA
2ZHA
2ZA
2NGA
2HA
2XA
2HHA
2FA
2WA
2SHA
2YA
2GHA
2A
2AE
2E
2EU
2I
2O
2U
2UE
2UH
2OE
2TONE MYA TI
3NA PO
3MYA CYA
4BO
4NA
4JEU
1PUNCTUATION COMMA
2FULL STOP
0VAI SYLLABLE EE
2EEN
2HEE
2WEE
2WEEN
2PEE
2BHEE
2BEE
2MBEE
2KPEE
2MGBEE
2GBEE
2FEE
2VEE
2TEE
2THEE
2DHEE
2DHHEE
2LEE
2REE
2DEE
2NDEE
2SEE
2SHEE
2ZEE
2ZHEE
2CEE
2JEE
2NJEE
2YEE
2KEE
2NGGEE
2GEE
2MEE
2NEE
2NYEE
2I
2IN
2HI
2HIN
2WI
2WIN
2PI
2BHI
2BI
2MBI
2KPI
2MGBI
2GBI
2FI
2VI
2TI
2THI
2DHI
2DHHI
2LI
2RI
2DI
2NDI
2SI
2SHI
2ZI
2ZHI
2CI
2JI
2NJI
2YI
2KI
2NGGI
2GI
2MI
2NI
2NYI
2A
2AN
2NGAN
2HA
2HAN
2WA
2WAN
2PA
2BHA
2BA
2MBA
2KPA
2KPAN
2MGBA
2GBA
2FA
2VA
2TA
2THA
2DHA
2DHHA
2LA
2RA
2DA
2NDA
2SA
2SHA
2ZA
2ZHA
2CA
2JA
2NJA
2YA
2KA
2KAN
2NGGA
2GA
2MA
2NA
2NYA
2OO
2OON
2HOO
2WOO
2WOON
2POO
2BHOO
2BOO
2MBOO
2KPOO
2MGBOO
2GBOO
2FOO
2VOO
2TOO
2THOO
2DHOO
2DHHOO
2LOO
2ROO
2DOO
2NDOO
2SOO
2SHOO
2ZOO
2ZHOO
2COO
2JOO
2NJOO
2YOO
2KOO
2NGGOO
2GOO
2MOO
2NOO
2NYOO
2U
2UN
2HU
2HUN
2WU
2WUN
2PU
2BHU
2BU
2MBU
2KPU
2MGBU
2GBU
2FU
2VU
2TU
2THU
2DHU
2DHHU
2LU
2RU
2DU
2NDU
2SU
2SHU
2ZU
2ZHU
2CU
2JU
2NJU
2YU
2KU
2NGGU
2GU
2MU
2NU
2NYU
2O
2ON
2NGON
2HO
2HON
2WO
2WON
2PO
2BHO
2BO
2MBO
2KPO
2MGBO
2GBO
2GBON
2FO
2VO
2TO
2THO
2DHO
2DHHO
2LO
2RO
2DO
2NDO
2SO
2SHO
2ZO
2ZHO
2CO
2JO
2NJO
2YO
2KO
2NGGO
2GO
2MO
2NO
2NYO
2E
2EN
2NGEN
2HE
2HEN
2WE
2WEN
2PE
2BHE
2BE
2MBE
2KPE
2KPEN
2MGBE
2GBE
2GBEN
2FE
2VE
2TE
2THE
2DHE
2DHHE
2LE
2RE
2DE
2NDE
2SE
2SHE
2ZE
2ZHE
2CE
2JE
2NJE
2YE
2KE
2NGGE
2NGGEN
2GE
2GEN
2ME
2NE
2NYE
2NG
2LENGTHENER
1COMMA
1FULL STOP
1QUESTION MARK
1SYLLABLE NDOLE FA
3KA
3SOO
1SYMBOL FEENG
2KEENG
2TING
2NII
2BANG
2FAA
2TAA
2DANG
2DOONG
2KUNG
2TONG
2DO-O
2JONG
1DIGIT ZERO
2ONE
2TWO
2THREE
2FOUR
2FIVE
2SIX
2SEVEN
2EIGHT
2NINE
1SYLLABLE NDOLE MA
3DO
=a640
0CYRILLIC CAPITAL LETTER ZEMLYA
1SMALL LETTER ZEMLYA
1CAPITAL LETTER DZELO
1SMALL LETTER DZELO
1CAPITAL LETTER REVERSED DZE
1SMALL LETTER REVERSED DZE
1CAPITAL LETTER IOTA
1SMALL LETTER IOTA
1CAPITAL LETTER DJERV
1SMALL LETTER DJERV
1CAPITAL LETTER MONOGRAPH UK
1SMALL LETTER MONOGRAPH UK
1CAPITAL LETTER BROAD OMEGA
1SMALL LETTER BROAD OMEGA
1CAPITAL LETTER NEUTRAL YER
1SMALL LETTER NEUTRAL YER
1CAPITAL LETTER YERU WITH BACK YER
1SMALL LETTER YERU WITH BACK YER
1CAPITAL LETTER IOTIFIED YAT
1SMALL LETTER IOTIFIED YAT
1CAPITAL LETTER REVERSED YU
1SMALL LETTER REVERSED YU
1CAPITAL LETTER IOTIFIED A
1SMALL LETTER IOTIFIED A
1CAPITAL LETTER CLOSED LITTLE YUS
1SMALL LETTER CLOSED LITTLE YUS
1CAPITAL LETTER BLENDED YUS
1SMALL LETTER BLENDED YUS
1CAPITAL LETTER IOTIFIED CLOSED LITTLE YUS
1SMALL LETTER IOTIFIED CLOSED LITTLE YUS
1CAPITAL LETTER YN
1SMALL LETTER YN
1CAPITAL LETTER REVERSED TSE
1SMALL LETTER REVERSED TSE
1CAPITAL LETTER SOFT DE
1SMALL LETTER SOFT DE
1CAPITAL LETTER SOFT EL
1SMALL LETTER SOFT EL
1CAPITAL LETTER SOFT EM
1SMALL LETTER SOFT EM
1CAPITAL LETTER MONOCULAR O
1SMALL LETTER MONOCULAR O
1CAPITAL LETTER BINOCULAR O
1SMALL LETTER BINOCULAR O
1CAPITAL LETTER DOUBLE MONOCULAR O
1SMALL LETTER DOUBLE MONOCULAR O
1LETTER MULTIOCULAR O
0COMBINING CYRILLIC VZMET
2TEN MILLIONS SIGN
2HUNDRED MILLIONS SIGN
2THOUSAND MILLIONS SIGN
0SLAVONIC ASTERISK
0COMBINING CYRILLIC LETTER UKRAINIAN IE
3I
3YI
3U
3HARD SIGN
3YERU
3SOFT SIGN
3OMEGA
2KAVYKA
2PAYEROK
0CYRILLIC KAVYKA
1PAYEROK
1CAPITAL LETTER DWE
1SMALL LETTER DWE
1CAPITAL LETTER DZWE
1SMALL LETTER DZWE
1CAPITAL LETTER ZHWE
1SMALL LETTER ZHWE
1CAPITAL LETTER CCHE
1SMALL LETTER CCHE
1CAPITAL LETTER DZZE
1SMALL LETTER DZZE
1CAPITAL LETTER TE WITH MIDDLE HOOK
1SMALL LETTER TE WITH MIDDLE HOOK
1CAPITAL LETTER TWE
1SMALL LETTER TWE
1CAPITAL LETTER TSWE
1SMALL LETTER TSWE
1CAPITAL LETTER TSSE
1SMALL LETTER TSSE
1CAPITAL LETTER TCHE
1SMALL LETTER TCHE
1CAPITAL LETTER HWE
1SMALL LETTER HWE
1CAPITAL LETTER SHWE
1SMALL LETTER SHWE
1CAPITAL LETTER DOUBLE O
1SMALL LETTER DOUBLE O
1CAPITAL LETTER CROSSED O
1SMALL LETTER CROSSED O
0MODIFIER LETTER CYRILLIC HARD SIGN
3SOFT SIGN
0COMBINING CYRILLIC LETTER EF
3IOTIFIED E
0BAMUM LETTER A
2KA
2U
2KU
2EE
2REE
2TAE
2O
2NYI
2I
2LA
2PA
2RII
2RIEE
2LEEEE
2MEEEE
2TAA
2NDAA
2NJAEM
2M
2SUU
2MU
2SHII
2SI
2SHEUX
2SEUX
2KYEE
2KET
2NUAE
2NU
2NJUAE
2YOQ
2SHU
2YUQ
2YA
2NSHA
2KEUX
2PEUX
2NJEE
2NTEE
2PUE
2WUE
2PEE
2FEE
2RU
2LU
2MI
2NI
2REUX
2RAE
2KEN
2NGKWAEN
2NGGA
2NGA
2SHO
2PUAE
2FU
2FOM
2WA
2NA
2LI
2PI
2LOQ
2KO
2MBEN
2REN
2MEN
2MA
2TI
2KI
2MO
2MBAA
2TET
2KPA
2TEN
2NTUU
2SAMBA
2FAAMAE
2KOVUU
2KOGHOM
1COMBINING MARK KOQNDON
3TUKWENTIS
1NJAEMLI
1FULL STOP
1COLON
1COMMA
1SEMICOLON
1QUESTION MARK
=a700
0MODIFIER LETTER CHINESE TONE YIN PING
4YANG PING
4YIN SHANG
4YANG SHANG
4YIN QU
4YANG QU
4YIN RU
4YANG RU
2EXTRA-HIGH DOTTED TONE BAR"

end Bindery.Text.CharacterName
