/- Further names of characters: the names and abbreviations of controls, of invisible characters
   and of variation selectors, and corrected names. -/
namespace Bindery.Text.CharacterName

/-- Rows `name=hex`, ended by semicolons. -/
def aliasRows : String :=
  "NULL=0;START OF HEADING=1;START OF TEXT=2;END OF TEXT=3;END OF TRANSMISSION=4;ENQUIRY=5;
ACKNOWLEDGE=6;ALERT=7;BACKSPACE=8;CHARACTER TABULATION=9;HORIZONTAL TABULATION=9;
LINE FEED=a;NEW LINE=a;END OF LINE=a;LINE TABULATION=b;VERTICAL TABULATION=b;FORM FEED=c;
CARRIAGE RETURN=d;SHIFT OUT=e;LOCKING-SHIFT ONE=e;SHIFT IN=f;LOCKING-SHIFT ZERO=f;
DATA LINK ESCAPE=10;DEVICE CONTROL ONE=11;DEVICE CONTROL TWO=12;DEVICE CONTROL THREE=13;
DEVICE CONTROL FOUR=14;NEGATIVE ACKNOWLEDGE=15;SYNCHRONOUS IDLE=16;
END OF TRANSMISSION BLOCK=17;CANCEL=18;END OF MEDIUM=19;SUBSTITUTE=1a;ESCAPE=1b;
INFORMATION SEPARATOR FOUR=1c;FILE SEPARATOR=1c;INFORMATION SEPARATOR THREE=1d;
GROUP SEPARATOR=1d;INFORMATION SEPARATOR TWO=1e;RECORD SEPARATOR=1e;
INFORMATION SEPARATOR ONE=1f;UNIT SEPARATOR=1f;DELETE=7f;PADDING CHARACTER=80;
HIGH OCTET PRESET=81;BREAK PERMITTED HERE=82;NO BREAK HERE=83;INDEX=84;NEXT LINE=85;
START OF SELECTED AREA=86;END OF SELECTED AREA=87;CHARACTER TABULATION SET=88;
HORIZONTAL TABULATION SET=88;CHARACTER TABULATION WITH JUSTIFICATION=89;
HORIZONTAL TABULATION WITH JUSTIFICATION=89;LINE TABULATION SET=8a;
VERTICAL TABULATION SET=8a;PARTIAL LINE FORWARD=8b;PARTIAL LINE DOWN=8b;
PARTIAL LINE BACKWARD=8c;PARTIAL LINE UP=8c;REVERSE LINE FEED=8d;REVERSE INDEX=8d;
SINGLE SHIFT TWO=8e;SINGLE-SHIFT-2=8e;SINGLE SHIFT THREE=8f;SINGLE-SHIFT-3=8f;
DEVICE CONTROL STRING=90;PRIVATE USE ONE=91;PRIVATE USE-1=91;PRIVATE USE TWO=92;
PRIVATE USE-2=92;SET TRANSMIT STATE=93;CANCEL CHARACTER=94;MESSAGE WAITING=95;
START OF GUARDED AREA=96;START OF PROTECTED AREA=96;END OF GUARDED AREA=97;
END OF PROTECTED AREA=97;START OF STRING=98;SINGLE GRAPHIC CHARACTER INTRODUCER=99;
SINGLE CHARACTER INTRODUCER=9a;CONTROL SEQUENCE INTRODUCER=9b;STRING TERMINATOR=9c;
OPERATING SYSTEM COMMAND=9d;PRIVACY MESSAGE=9e;APPLICATION PROGRAM COMMAND=9f;NUL=0;SOH=1;
STX=2;ETX=3;EOT=4;ENQ=5;ACK=6;BEL=7;BS=8;TAB=9;HT=9;LF=a;NL=a;EOL=a;VT=b;FF=c;CR=d;SO=e;
SI=f;DLE=10;DC1=11;DC2=12;DC3=13;DC4=14;NAK=15;SYN=16;ETB=17;CAN=18;EOM=19;SUB=1a;ESC=1b;
FS=1c;GS=1d;RS=1e;US=1f;SP=20;DEL=7f;PAD=80;HOP=81;BPH=82;NBH=83;IND=84;NEL=85;SSA=86;
ESA=87;HTS=88;HTJ=89;VTS=8a;PLD=8b;PLU=8c;RI=8d;SS2=8e;SS3=8f;DCS=90;PU1=91;PU2=92;STS=93;
CCH=94;MW=95;SPA=96;EPA=97;SOS=98;SGC=99;SCI=9a;CSI=9b;ST=9c;OSC=9d;PM=9e;APC=9f;NBSP=a0;
SHY=ad;CGJ=34f;ALM=61c;FVS1=180b;FVS2=180c;FVS3=180d;FVS4=180f;MVS=180e;ZWSP=200b;ZWNJ=200c;
ZWJ=200d;LRM=200e;RLM=200f;LRE=202a;RLE=202b;PDF=202c;LRO=202d;RLO=202e;NNBSP=202f;
MMSP=205f;WJ=2060;LRI=2066;RLI=2067;FSI=2068;PDI=2069;BYTE ORDER MARK=feff;BOM=feff;
ZWNBSP=feff;LATIN CAPITAL LETTER GHA=1a2;LATIN SMALL LETTER GHA=1a3;
SYRIAC SUBLINEAR COLON SKEWED LEFT=709;KANNADA LETTER LLLA=cde;LAO LETTER FO FON=e9d;
LAO LETTER FO FAY=e9f;LAO LETTER RO=ea3;LAO LETTER LO=ea5;
TIBETAN MARK BKA- SHOG GI MGO RGYAN=fd0;HANGUL JONGSEONG YESIEUNG-KIYEOK=11ec;
HANGUL JONGSEONG YESIEUNG-SSANGKIYEOK=11ed;HANGUL JONGSEONG SSANGYESIEUNG=11ee;
HANGUL JONGSEONG YESIEUNG-KHIEUKH=11ef;WEIERSTRASS ELLIPTIC FUNCTION=2118;
MICR ON US SYMBOL=2448;MICR DASH SYMBOL=2449;
LEFTWARDS TRIANGLE-HEADED ARROW WITH DOUBLE VERTICAL STROKE=2b7a;
RIGHTWARDS TRIANGLE-HEADED ARROW WITH DOUBLE VERTICAL STROKE=2b7c;
YI SYLLABLE ITERATION MARK=a015;
PRESENTATION FORM FOR VERTICAL RIGHT WHITE LENTICULAR BRACKET=fe18;
CUNEIFORM SIGN NU11 TENU=122d4;CUNEIFORM SIGN NU11 OVER NU11 BUR OVER BUR=122d5;
BYZANTINE MUSICAL SYMBOL FTHORA SKLIRON CHROMA VASIS=1d0c5;
MEDEFAIDRIN CAPITAL LETTER H=16e56;MEDEFAIDRIN CAPITAL LETTER NG=16e57;
MEDEFAIDRIN SMALL LETTER H=16e76;MEDEFAIDRIN SMALL LETTER NG=16e77;
HENTAIGANA LETTER E-1=1b001;VS1=fe00;VS2=fe01;VS3=fe02;VS4=fe03;VS5=fe04;VS6=fe05;VS7=fe06;
VS8=fe07;VS9=fe08;VS10=fe09;VS11=fe0a;VS12=fe0b;VS13=fe0c;VS14=fe0d;VS15=fe0e;VS16=fe0f;
VS17=e0100;VS18=e0101;VS19=e0102;VS20=e0103;VS21=e0104;VS22=e0105;VS23=e0106;VS24=e0107;
VS25=e0108;VS26=e0109;VS27=e010a;VS28=e010b;VS29=e010c;VS30=e010d;VS31=e010e;VS32=e010f;
VS33=e0110;VS34=e0111;VS35=e0112;VS36=e0113;VS37=e0114;VS38=e0115;VS39=e0116;VS40=e0117;
VS41=e0118;VS42=e0119;VS43=e011a;VS44=e011b;VS45=e011c;VS46=e011d;VS47=e011e;VS48=e011f;
VS49=e0120;VS50=e0121;VS51=e0122;VS52=e0123;VS53=e0124;VS54=e0125;VS55=e0126;VS56=e0127;
VS57=e0128;VS58=e0129;VS59=e012a;VS60=e012b;VS61=e012c;VS62=e012d;VS63=e012e;VS64=e012f;
VS65=e0130;VS66=e0131;VS67=e0132;VS68=e0133;VS69=e0134;VS70=e0135;VS71=e0136;VS72=e0137;
VS73=e0138;VS74=e0139;VS75=e013a;VS76=e013b;VS77=e013c;VS78=e013d;VS79=e013e;VS80=e013f;
VS81=e0140;VS82=e0141;VS83=e0142;VS84=e0143;VS85=e0144;VS86=e0145;VS87=e0146;VS88=e0147;
VS89=e0148;VS90=e0149;VS91=e014a;VS92=e014b;VS93=e014c;VS94=e014d;VS95=e014e;VS96=e014f;
VS97=e0150;VS98=e0151;VS99=e0152;VS100=e0153;VS101=e0154;VS102=e0155;VS103=e0156;
VS104=e0157;VS105=e0158;VS106=e0159;VS107=e015a;VS108=e015b;VS109=e015c;VS110=e015d;
VS111=e015e;VS112=e015f;VS113=e0160;VS114=e0161;VS115=e0162;VS116=e0163;VS117=e0164;
VS118=e0165;VS119=e0166;VS120=e0167;VS121=e0168;VS122=e0169;VS123=e016a;VS124=e016b;
VS125=e016c;VS126=e016d;VS127=e016e;VS128=e016f;VS129=e0170;VS130=e0171;VS131=e0172;
VS132=e0173;VS133=e0174;VS134=e0175;VS135=e0176;VS136=e0177;VS137=e0178;VS138=e0179;
VS139=e017a;VS140=e017b;VS141=e017c;VS142=e017d;VS143=e017e;VS144=e017f;VS145=e0180;
VS146=e0181;VS147=e0182;VS148=e0183;VS149=e0184;VS150=e0185;VS151=e0186;VS152=e0187;
VS153=e0188;VS154=e0189;VS155=e018a;VS156=e018b;VS157=e018c;VS158=e018d;VS159=e018e;
VS160=e018f;VS161=e0190;VS162=e0191;VS163=e0192;VS164=e0193;VS165=e0194;VS166=e0195;
VS167=e0196;VS168=e0197;VS169=e0198;VS170=e0199;VS171=e019a;VS172=e019b;VS173=e019c;
VS174=e019d;VS175=e019e;VS176=e019f;VS177=e01a0;VS178=e01a1;VS179=e01a2;VS180=e01a3;
VS181=e01a4;VS182=e01a5;VS183=e01a6;VS184=e01a7;VS185=e01a8;VS186=e01a9;VS187=e01aa;
VS188=e01ab;VS189=e01ac;VS190=e01ad;VS191=e01ae;VS192=e01af;VS193=e01b0;VS194=e01b1;
VS195=e01b2;VS196=e01b3;VS197=e01b4;VS198=e01b5;VS199=e01b6;VS200=e01b7;VS201=e01b8;
VS202=e01b9;VS203=e01ba;VS204=e01bb;VS205=e01bc;VS206=e01bd;VS207=e01be;VS208=e01bf;
VS209=e01c0;VS210=e01c1;VS211=e01c2;VS212=e01c3;VS213=e01c4;VS214=e01c5;VS215=e01c6;
VS216=e01c7;VS217=e01c8;VS218=e01c9;VS219=e01ca;VS220=e01cb;VS221=e01cc;VS222=e01cd;
VS223=e01ce;VS224=e01cf;VS225=e01d0;VS226=e01d1;VS227=e01d2;VS228=e01d3;VS229=e01d4;
VS230=e01d5;VS231=e01d6;VS232=e01d7;VS233=e01d8;VS234=e01d9;VS235=e01da;VS236=e01db;
VS237=e01dc;VS238=e01dd;VS239=e01de;VS240=e01df;VS241=e01e0;VS242=e01e1;VS243=e01e2;
VS244=e01e3;VS245=e01e4;VS246=e01e5;VS247=e01e6;VS248=e01e7;VS249=e01e8;VS250=e01e9;
VS251=e01ea;VS252=e01eb;VS253=e01ec;VS254=e01ed;VS255=e01ee;VS256=e01ef;"

end Bindery.Text.CharacterName
