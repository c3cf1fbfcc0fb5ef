/-!
# Further names of characters: the data

Control characters, which have no name of their own, abbreviations, and corrected names.
-/

namespace FragmentSearch.Text.CharacterNames

/-- The names from U+0000 to U+1D0C5. -/
def aliases1 : String := "
0:0NUL;0:0NULL;0SOH;1:0START OF HEADING;2TEXT;2:0STX;0END OF TEXT;3:0ETX;0END OF TRANSMISSION;4:0EOT;0ENQ;
5:0ENQUIRY;0ACK;6:0ACKNOWLEDGE;0ALERT;7:0BEL;0BACKSPACE;8:0BS;0CHARACTER TABULATION;
9:0HORIZONTAL TABULATION;9:0HT;9:0TAB;0END OF LINE;a:0EOL;a:0LF;a:0LINE FEED;a:0NEW LINE;a:0NL;
0LINE TABULATION;b:0VERTICAL TABULATION;b:0VT;0FF;c:0FORM FEED;0CARRIAGE RETURN;d:0CR;0LOCKING-SHIFT ONE;
e:0SHIFT OUT;e:0SO;0LOCKING-SHIFT ZERO;f:0SHIFT IN;f:0SI;0DATA LINK ESCAPE;10:0DLE;0DC1;
11:0DEVICE CONTROL ONE;0DC2;12:0DEVICE CONTROL TWO;0DC3;13:0DEVICE CONTROL THREE;0DC4;
14:0DEVICE CONTROL FOUR;0NAK;15:0NEGATIVE ACKNOWLEDGE;0SYN;16:0SYNCHRONOUS IDLE;0END OF TRANSMISSION BLOCK;
17:0ETB;0CAN;18:0CANCEL;0END OF MEDIUM;19:0EOM;0SUB;1a:0SUBSTITUTE;0ESC;1b:0ESCAPE;0FILE SEPARATOR;1c:0FS;
1c:0INFORMATION SEPARATOR FOUR;0GROUP SEPARATOR;1d:0GS;1d:0INFORMATION SEPARATOR THREE;2TWO;
1e:0RECORD SEPARATOR;1e:0RS;0INFORMATION SEPARATOR ONE;1f:0UNIT SEPARATOR;1f:0US;0SP;7f:0DEL;7f:0DELETE;
0PAD;80:0PADDING CHARACTER;0HIGH OCTET PRESET;81:0HOP;0BPH;82:0BREAK PERMITTED HERE;0NBH;83:0NO BREAK HERE;
0IND;84:0INDEX;0NEL;85:0NEXT LINE;0SSA;86:0START OF SELECTED AREA;0END OF SELECTED AREA;87:0ESA;
0CHARACTER TABULATION SET;88:0HORIZONTAL TABULATION SET;88:0HTS;0CHARACTER TABULATION WITH JUSTIFICATION;
89:0HORIZONTAL TABULATION WITH JUSTIFICATION;89:0HTJ;0LINE TABULATION SET;8a:0VERTICAL TABULATION SET;
8a:0VTS;0PARTIAL LINE DOWN;8b:2FORWARD;8b:0PLD;0PARTIAL LINE BACKWARD;8c:2UP;8c:0PLU;0REVERSE INDEX;
8d:1LINE FEED;8d:0RI;0SINGLE SHIFT TWO;8e:0SINGLE-SHIFT-2;8e:0SS2;0SINGLE SHIFT THREE;8f:0SINGLE-SHIFT-3;
8f:0SS3;0DCS;90:0DEVICE CONTROL STRING;0PRIVATE USE ONE;91:1USE-1;91:0PU1;0PRIVATE USE TWO;92:1USE-2;
92:0PU2;0SET TRANSMIT STATE;93:0STS;0CANCEL CHARACTER;94:0CCH;0MESSAGE WAITING;95:0MW;0SPA;
96:0START OF GUARDED AREA;96:2PROTECTED AREA;0END OF GUARDED AREA;97:2PROTECTED AREA;97:0EPA;0SOS;
98:0START OF STRING;0SGC;99:0SINGLE GRAPHIC CHARACTER INTRODUCER;0SCI;9a:0SINGLE CHARACTER INTRODUCER;
0CONTROL SEQUENCE INTRODUCER;9b:0CSI;0ST;9c:0STRING TERMINATOR;0OPERATING SYSTEM COMMAND;9d:0OSC;0PM;
9e:0PRIVACY MESSAGE;0APC;9f:0APPLICATION PROGRAM COMMAND;0NBSP;ad:0SHY;1a2:0LATIN CAPITAL LETTER GHA;
1SMALL LETTER GHA;34f:0CGJ;61c:0ALM;709:0SYRIAC SUBLINEAR COLON SKEWED LEFT;cde:0KANNADA LETTER LLLA;
e9d:0LAO LETTER FO FON;e9f:3FAY;ea3:2RO;ea5:2LO;fd0:0TIBETAN MARK BKA- SHOG GI MGO RGYAN;
11ec:0HANGUL JONGSEONG YESIEUNG-KIYEOK;2YESIEUNG-SSANGKIYEOK;2SSANGYESIEUNG;2YESIEUNG-KHIEUKH;180b:0FVS1;
0FVS2;0FVS3;0MVS;0FVS4;200b:0ZWSP;0ZWNJ;0ZWJ;0LRM;0RLM;202a:0LRE;0RLE;0PDF;0LRO;0RLO;0NNBSP;205f:0MMSP;0WJ;
2066:0LRI;0RLI;0FSI;0PDI;2118:0WEIERSTRASS ELLIPTIC FUNCTION;2448:0MICR ON US SYMBOL;1DASH SYMBOL;
2b7a:0LEFTWARDS TRIANGLE-HEADED ARROW WITH DOUBLE VERTICAL STROKE;
2b7c:0RIGHTWARDS TRIANGLE-HEADED ARROW WITH DOUBLE VERTICAL STROKE;a015:0YI SYLLABLE ITERATION MARK;
aa6e:0MYANMAR LETTER KHAMTI LLA;fe18:0PRESENTATION FORM FOR VERTICAL RIGHT WHITE LENTICULAR BRACKET;
feff:0BOM;feff:0BYTE ORDER MARK;feff:0ZWNBSP;122d4:0CUNEIFORM SIGN NU11 TENU;3OVER NU11 BUR OVER BUR;
16e56:0MEDEFAIDRIN CAPITAL LETTER H;3NG;16e76:1SMALL LETTER H;3NG;1b001:0HENTAIGANA LETTER E-1;
1d0c5:0BYZANTINE MUSICAL SYMBOL FTHORA SKLIRON CHROMA VASIS;"

/-- All parts in order. -/
def aliases : List String := [aliases1]

end FragmentSearch.Text.CharacterNames
