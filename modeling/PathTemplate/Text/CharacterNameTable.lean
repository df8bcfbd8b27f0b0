/-!
# Table of character names

The names of the characters of Unicode 14 that follow no rule of their own. They are listed in the
order of codes, each as an edit of the one before, and what the edits have in common is abbreviated.

## Main definitions

* `nameAliases`: the second names that characters have, and the names of control characters.
* `namePhrases`: the phrases that can be abbreviated, in lines, with commas in between.
* `nameEdits`: the edits, in lines. A small letter up to `m` takes off as many characters as stand in
  front of it in the alphabet; the signs `>`, `<`, `+` and `*` leave out 1, 16, 256 and 4096 codes;
  capital letters, digits, blanks and hyphens are put behind what is left. Any other character
  makes, with the next one, the number of a phrase.
-/

namespace PathTemplate.Text

def nameAliases : List (String × Nat) := [
  ("NULL", 0), ("NUL", 0), ("START OF HEADING", 1), ("SOH", 1), ("START OF TEXT", 2), ("STX", 2),
  ("END OF TEXT", 3), ("ETX", 3), ("END OF TRANSMISSION", 4), ("EOT", 4), ("ENQUIRY", 5),
  ("ENQ", 5), ("ACKNOWLEDGE", 6), ("ACK", 6), ("ALERT", 7), ("BEL", 7), ("BACKSPACE", 8), ("BS", 8),
  ("CHARACTER TABULATION", 9), ("HORIZONTAL TABULATION", 9), ("HT", 9), ("TAB", 9),
  ("LINE FEED", 10), ("NEW LINE", 10), ("END OF LINE", 10), ("LF", 10), ("NL", 10), ("EOL", 10),
  ("LINE TABULATION", 11), ("VERTICAL TABULATION", 11), ("VT", 11), ("FORM FEED", 12), ("FF", 12),
  ("CARRIAGE RETURN", 13), ("CR", 13), ("SHIFT OUT", 14), ("LOCKING-SHIFT ONE", 14), ("SO", 14),
  ("SHIFT IN", 15), ("LOCKING-SHIFT ZERO", 15), ("SI", 15), ("DATA LINK ESCAPE", 16), ("DLE", 16),
  ("DEVICE CONTROL ONE", 17), ("DC1", 17), ("DEVICE CONTROL TWO", 18), ("DC2", 18),
  ("DEVICE CONTROL THREE", 19), ("DC3", 19), ("DEVICE CONTROL FOUR", 20), ("DC4", 20),
  ("NEGATIVE ACKNOWLEDGE", 21), ("NAK", 21), ("SYNCHRONOUS IDLE", 22), ("SYN", 22),
  ("END OF TRANSMISSION BLOCK", 23), ("ETB", 23), ("CANCEL", 24), ("CAN", 24),
  ("END OF MEDIUM", 25), ("EOM", 25), ("SUBSTITUTE", 26), ("SUB", 26), ("ESCAPE", 27), ("ESC", 27),
  ("INFORMATION SEPARATOR FOUR", 28), ("FILE SEPARATOR", 28), ("FS", 28),
  ("INFORMATION SEPARATOR THREE", 29), ("GROUP SEPARATOR", 29), ("GS", 29),
  ("INFORMATION SEPARATOR TWO", 30), ("RECORD SEPARATOR", 30), ("RS", 30),
  ("INFORMATION SEPARATOR ONE", 31), ("UNIT SEPARATOR", 31), ("US", 31), ("SP", 32),
  ("DELETE", 127), ("DEL", 127), ("PADDING CHARACTER", 128), ("PAD", 128),
  ("HIGH OCTET PRESET", 129), ("HOP", 129), ("BREAK PERMITTED HERE", 130), ("BPH", 130),
  ("NO BREAK HERE", 131), ("NBH", 131), ("INDEX", 132), ("IND", 132), ("NEXT LINE", 133),
  ("NEL", 133), ("START OF SELECTED AREA", 134), ("SSA", 134), ("END OF SELECTED AREA", 135),
  ("ESA", 135), ("CHARACTER TABULATION SET", 136), ("HORIZONTAL TABULATION SET", 136), ("HTS", 136),
  ("CHARACTER TABULATION WITH JUSTIFICATION", 137),
  ("HORIZONTAL TABULATION WITH JUSTIFICATION", 137), ("HTJ", 137), ("LINE TABULATION SET", 138),
  ("VERTICAL TABULATION SET", 138), ("VTS", 138), ("PARTIAL LINE FORWARD", 139),
  ("PARTIAL LINE DOWN", 139), ("PLD", 139), ("PARTIAL LINE BACKWARD", 140),
  ("PARTIAL LINE UP", 140), ("PLU", 140), ("REVERSE LINE FEED", 141), ("REVERSE INDEX", 141),
  ("RI", 141), ("SINGLE SHIFT TWO", 142), ("SINGLE-SHIFT-2", 142), ("SS2", 142),
  ("SINGLE SHIFT THREE", 143), ("SINGLE-SHIFT-3", 143), ("SS3", 143),
  ("DEVICE CONTROL STRING", 144), ("DCS", 144), ("PRIVATE USE ONE", 145), ("PRIVATE USE-1", 145),
  ("PU1", 145), ("PRIVATE USE TWO", 146), ("PRIVATE USE-2", 146), ("PU2", 146),
  ("SET TRANSMIT STATE", 147), ("STS", 147), ("CANCEL CHARACTER", 148), ("CCH", 148),
  ("MESSAGE WAITING", 149), ("MW", 149), ("START OF GUARDED AREA", 150),
  ("START OF PROTECTED AREA", 150), ("SPA", 150), ("END OF GUARDED AREA", 151),
  ("END OF PROTECTED AREA", 151), ("EPA", 151), ("START OF STRING", 152), ("SOS", 152),
  ("SINGLE GRAPHIC CHARACTER INTRODUCER", 153), ("SGC", 153), ("SINGLE CHARACTER INTRODUCER", 154),
  ("SCI", 154), ("CONTROL SEQUENCE INTRODUCER", 155), ("CSI", 155), ("STRING TERMINATOR", 156),
  ("ST", 156), ("OPERATING SYSTEM COMMAND", 157), ("OSC", 157), ("PRIVACY MESSAGE", 158),
  ("PM", 158), ("APPLICATION PROGRAM COMMAND", 159), ("APC", 159), ("NBSP", 160), ("SHY", 173),
  ("LATIN CAPITAL LETTER GHA", 418), ("LATIN SMALL LETTER GHA", 419), ("CGJ", 847), ("ALM", 1564),
  ("SYRIAC SUBLINEAR COLON SKEWED LEFT", 1801), ("KANNADA LETTER LLLA", 3294),
  ("LAO LETTER FO FON", 3741), ("LAO LETTER FO FAY", 3743), ("LAO LETTER RO", 3747),
  ("LAO LETTER LO", 3749), ("TIBETAN MARK BKA- SHOG GI MGO RGYAN", 4048),
  ("HANGUL JONGSEONG YESIEUNG-KIYEOK", 4588), ("HANGUL JONGSEONG YESIEUNG-SSANGKIYEOK", 4589),
  ("HANGUL JONGSEONG SSANGYESIEUNG", 4590), ("HANGUL JONGSEONG YESIEUNG-KHIEUKH", 4591),
  ("FVS1", 6155), ("FVS2", 6156), ("FVS3", 6157), ("MVS", 6158), ("FVS4", 6159), ("ZWSP", 8203),
  ("ZWNJ", 8204), ("ZWJ", 8205), ("LRM", 8206), ("RLM", 8207), ("LRE", 8234), ("RLE", 8235),
  ("PDF", 8236), ("LRO", 8237), ("RLO", 8238), ("NNBSP", 8239), ("MMSP", 8287), ("WJ", 8288),
  ("LRI", 8294), ("RLI", 8295), ("FSI", 8296), ("PDI", 8297),
  ("WEIERSTRASS ELLIPTIC FUNCTION", 8472), ("MICR ON US SYMBOL", 9288), ("MICR DASH SYMBOL", 9289),
  ("LEFTWARDS TRIANGLE-HEADED ARROW WITH DOUBLE VERTICAL STROKE", 11130),
  ("RIGHTWARDS TRIANGLE-HEADED ARROW WITH DOUBLE VERTICAL STROKE", 11132),
  ("YI SYLLABLE ITERATION MARK", 40981), ("MYANMAR LETTER KHAMTI LLA", 43630),
  ("PRESENTATION FORM FOR VERTICAL RIGHT WHITE LENTICULAR BRACKET", 65048),
  ("BYTE ORDER MARK", 65279), ("BOM", 65279), ("ZWNBSP", 65279),
  ("CUNEIFORM SIGN NU11 TENU", 74452), ("CUNEIFORM SIGN NU11 OVER NU11 BUR OVER BUR", 74453),
  ("MEDEFAIDRIN CAPITAL LETTER H", 93782), ("MEDEFAIDRIN CAPITAL LETTER NG", 93783),
  ("MEDEFAIDRIN SMALL LETTER H", 93814), ("MEDEFAIDRIN SMALL LETTER NG", 93815),
  ("HENTAIGANA LETTER E-1", 110593),
  ("BYZANTINE MUSICAL SYMBOL FTHORA SKLIRON CHROMA VASIS", 118981)
]

def namePhrases : List String := [
  " AND , AND DOT ABOVE, LETTER , OVER , PLUS , SALTIRE, SASAK, SHA, SHADED WHITE ARROW, SHAR",
  " SIGN, SIGN , SIGN CANDRABINDUlANUSVARAiVISARGAm, SIGN COMBINING , SIGN WITH , SIGNi, SIGNj",
  " SIGNk, SIGNl, SIGNm, SIGNmb, SIGNmc, SIGNme, SIGNmf, SIGNmi, SLASH, SPACE, SQUARE",
  " SQUARE BRACKET, SUBSCRIPT SMALL LETTER , SYLLABLE , SYMBOL, SYMBOLj, SYMBOLl, SYMBOLm",
  " SYMBOLmc, SYMBOLmcTHETA SYMBOLmKAPPA SYMBOLmPHI SYMBOLkRHO SYMBOLkPI, SYMBOLme, SYMBOLmj",
  " WITH , WITH CIRCLE , WITH DAGESH, WITH DAGESHmd, WITH DESCENDER, WITH DOT, WITH DOT ",
  " WITH DOT ABOVE, WITH DOT ABOVE AND MACRON, WITH DOT ABOVEj, WITH DOT ABOVEmmfCAPITAL LETTER ",
  " WITH DOT ABOVEmmhSMALL LETTER , WITH DOT BELOW AND MACRON, WITH DOT BELOWmmfCAPITAL LETTER ",
  " WITH DOT BELOWmmhSMALL LETTER , WITH DOT INSIDE, WITH DOUBLE , WITH HOOK, WITH HOOKl",
  " WITH HOOKlTURNED , WITH HOOKmmCAPITAL LETTER , WITH HOOKmmbCAPITAL LETTER ",
  " WITH HOOKmmcSMALL LETTER , WITH HOOKmmdSMALL LETTER , WITH HORIZONTAL BAR",
  " WITH LEFT HALF BLACKmdRIGHT HALF BLACK, WITH ORNAMENT, WITH SINGLE ZAPYATAYA, WITH STROKE",
  " WITH STROKE , WITH STROKE THROUGH DESCENDER, WITH STROKEmb, WITH STROKEmj",
  " WITH STROKEmmcCAPITAL LETTER , WITH STROKEmmeSMALL LETTER ,********************************",
  "++++++++,-00b1b2b3b4b5b6,-1b2b3,-1b2b3b4,-1b2b3b4b5,-1b2b3b4b5b6,-1b2b3b4b5b6b7",
  "-1b2b3b4b5b6b7b8,-1b2b3b4b5b6b7b8b9b1,-1b2b3b4b5b6b7b8b9b10b1,-2b3b4b5b6,-AcYAcRAcLAc,-CREE ",
  "-CREE TH,-HEADED ,-KIYEOKg,-KIYEOKgNIEUNfTIKEUTg,-KIYEOKgTIKEUTg,-LIGHTED RIGHTWARDS ",
  "-LINE STAFF,-NO-EVIL MONKEY,-REVERSED-9 QUOTATION MARK,-SHADED WHITE ARROW,-SHAPED ,-THIRTYm",
  "-TILTED SHADOWED WHITE ARROW,-VASf,-WALLPLANE ,-WAY LEFT WAY TRAFFIC,001b2b3b4b5aAc6",
  "001b2b3b4b5b6,001b2b3b4b5b6b7b8b9c,00b1b2b3b4b5b6b7b8b9c10b1b2b3b4b5b6b7b8b9c2,0aAc1b2b3b4b5b6",
  "0b1aAc2b3b4b5b6,0b1b2b,0b1b2b3b4,0b1b2b3b4aAc5b6,0b1b2b3b4b5,0b1b2b3b4b5aAc6b7b8b9c",
  "0b1b2b3b4b5b6,0b1b2b3b4b5b6b7,0b1b2b3b4b5b6b7aAc8b9,0b1b2b3b4b5b6b7b8b9,0b1b2b3b4b5b6b7b8b9aAd",
  "0b1b2b3b4b5b6b7b8b9c,0b1b2b3b4b5b6b7b8b9c3,0b1b2b3b4b5b6b7b8b9c40b1b2b3b4b5b6b7b8b9c5",
  "0b1b2b3b4b5b6b7b8b9c6,0b1b2b3b4b5b6b7b8b9c60b1b2b3b4b5b6b7b8b9c,10aAc1b2b3b4b5b6",
  "10b1b2b3b4b5b6b7b8b9c2,1b2b,1b2b3b4,1b2b3b4b5b6,2 TIMES ,2a TIMES ,2a VARIANT FORM,2b3,3456",
  "3aAc4b5b6,3b4b5aAc6,3b4b5b6,3b4b5b6b7b8b9c,3b4b5b6b7b8b9c4,40b1b2b3b4b5b6b7b8b9c5,4b5b6b7b8b9c",
  "70b1b2b3b4b5b6b7b8b9c80b1b2b3b4b5b6b7b8b9c9,7b8b9c,<<<<,<<<<<<<<,<<<<<<<<<<<,<<<<<<<<<<<<",
  "<<>>>>>,<<>>>>>>,<>>>>>>>>,<>>>>>>>>>>,>>>,>>>>,>>>>>,>>>>>>,>>>>>>>,>>>>>>>>,>>>>>>>>>",
  ">>>>>>>>>>,>>>>>>>>>>>,>>>>>>>>>>>>,>>>>>>>>>>>>>,>>>>>>>>>>>>>>,>>>>>>>>>>>>>>>",
  ">>>>>>>>DIGIT ZEROeONEdTWOcHREEfFOURdIVEeSIXcEVENfEIGHTfNINE,>>>>LETTER ,>>COMBINING ",
  ">>DIGIT ZEROeONEdTWOcHREEfFOURdIVEeSIXcEVENfEIGHTfNINEk,>>SIGN ",
  ">>SIGN NUKTAfAVAGRAHAmbVOWEL SIGN AAcIaIcUaUcVOCALIC RaRk,>>SMALL LETTER ",
  ">EaEcAIc>OaOcAUmbSIGN VIRAMAl,>LETTER ,>LETTER AaAcIaIcUaUcVOCALIC RbLj>>,>PAbHAdBAbHAdMAc",
  "A ABOVEfBELOW,A PLUS ,A WITH ,A WITH BREVE ,A WITH BREVE AND ,A WITH CIRCUMFLEX AND ,A-PILLA",
  "AAcHAAe,AAd,ABBREVI,ABBREVIATION SIGNmf,ABKHASIAN ,ABOVE,ABOVE ",
  "ABOVE ISOLATED FORMmbFINAL FORM,ABOVE LEFTWARDS ARROW,ABOVE RIGHT,ABOVE RIGHTWARDS ARROW",
  "ABOVEfBELOW,ABOVEm,ABOVEmf,ABOVEmg,ABOVEmj,ABOVEmm,ABOVEmmb,ABOVEmmc,ABOVEmmk,ACUTE",
  "ACUTE ACCENTm,ACUTE ACCENTmh,ACUTEmmbCAPITAL LETTER ,ACUTEmmdSMALL LETTER ",
  "ACUTEmmmgSMALL LETTER ,AD WITH ,ADIAN SYLLABICS ,AIN,AIN WITH ,AIRPLAN,AL ",
  "AL IZHEmIbDJERVIgKAKOeLJUDIJEhMYSLITEhNASHIfONUdPOKOJIgRITSI,AL WITH ,ALE,ALEF MAKSURA",
  "ALEF MAKSURA ,ALEF MAKSURA FINAL FORM,ALEF MAKSURA FINAL FORMmlYEH FINAL FORM",
  "ALEF MAKSURA FINAL FORMmlYEH FINAL FORMml,ALEF MAKSURA FINAL FORMmmi",
  "ALEF MAKSURA ISOLATED FORMmmcYEH ISOLATED FORM",
  "ALEF MAKSURA ISOLATED FORMmmcYEH ISOLATED FORMmmc",
  "ALEF MAKSURA ISOLATED FORMmmcYEH ISOLATED FORMmmd,ALEF WITH ,ALEF WITH MADDA ,ALIZATION MARKmf",
  "ALL,ALLA,ALLY EQUAL TO,ALMOST EQUAL TO,ALPHA,ALPHA WITH ",
  "ALPHAfBETAeGAMMAfDELTAfEPSILONhZETAeETAdTHETAfIOTAeKAPPAf,ALTERNATE ,ALTERNATE FORM",
  "ALTERNATING,ALTERNATING ,AMPERSAND,AMPERSANDiPOSTROPHEkLEFT PARENTHESISmeRIGHT PARENTHESISmf",
  "AN ,AN ISOLATED FORMmk,AN LETTER ,AN SIGN ,ANCE,AND,AND ,AND ACUTE,AND ACUTEmmmCAPITAL LETTER ",
  "AND BALL,AND DIAERESISmm,AND GRAVE,AND HOOK",
  "AND HORIZONTAL DOUBLEmmeDOUBLE AND HORIZONTAL SINGLE,AND HORIZONTAL LIGHT,AND HORIZONTAL WITH ",
  "AND LEFT ,AND LEFT DOUBLEmkDOUBLE AND LEFT SINGLE,AND LOWER ,AND LOWER ONE EIGHTH BLOCK",
  "AND MACRON,AND RIGHT ,AND RIGHT DOUBLEmlDOUBLE AND RIGHT SINGLE,AND TWO DOTSmm,AND UPWARDS ",
  "ANDA,ANG,ANG ,ANGLE,ANGLE ,ANGLE BRACKET,ANGLE BRACKET ORNAMENT",
  "ANGLE BRACKETmgRIGHT ANGLE BRACKETmhLEFT ,ANGLE BRACKETmmbRIGHT DOUBLE ANGLE BRACKET",
  "ANGLE OPENING ,ANGLE QUOTATION MARK,ANGLE WITH ,ANT,ANTI,ANTICLOCKWISE ,ANTIMONY,ANUSVARA",
  "ANUSVARA ,ANUSVARAi,ANUSVARAiVISARGAfRAMAg,ANUSVARAiVISARGAh,ANUSVARAiVISARGAm",
  "ANcBANdGANdDONdENcVINdZENdTANdINcKANdLASdMANdNARdONcPARdZHAR,APOSTROPHE,APPROXIMATE",
  "APPROXIMATELY ,AR ,ARABIC ,ARABIC LETTER ,ARAa TEDUNGm,ARC ANTICLOCKWISE ,ARCHAIC ,ARCHAION",
  "ARCHAIONmd,ARI,ARMENIAN ,ARROW,ARROW ,ARROW ABOVE,ARROW AND ,ARROW CROSSING ,ARROW FROM BAR",
  "ARROW POINTING ,ARROW THROUGH ,ARROW WITH ,ARROW WITH HOOK,ARROWHEAD,ARROWHEAD ",
  "ARROWHEAD BELOW,ARROWHEADmc,ARROWme,ARROWmh,ARROWmj,ARROWmk,ARROWml,ARROWmmRIGHTWARDS ",
  "ARROWmmd,ARROWmmdRIGHTWARDS ,ARROWmme,ARROWmmg,ARd,AS-SALAAM,ASH,ASH TENU,AST,ASTERISK",
  "ASTERISKi,AT ,ATA,ATE,ATE ,ATED ,ATH,ATHA,ATION,ATION ,ATION MARK,ATTACHED ,ATbXcAaPcOTbXcOaPc",
  "ATbXcAaPcU,AU LENGTH MARKmc,AUcKAbHAdGAbHAdNGAdCAbHAdJAbHAd,AUmbSIGN ,AUmbSIGN VIRAMAg",
  "AUmbSIGN VIRAMAl,AYA,AYANNA,AYANNAmgMAHAAPRAANA ,AYANNAmh,AYIN,AYISI ,Aa TEDUNGm",
  "AaEcYAaEdEOcEb,AbB,AbBbCbDbEbFbGbHbIbJbKbLbMbNbObPbQbRbSbTbUbVbWbXbYbZ",
  "AbBbCbDbEbFbGbHbIbJbKbLbMbNbObPbQbRbSbTbUbVbWbXbYbZjSMALL ,AbEbIbObUb,AbEbIbObUbVc",
  "AbEbIbObUbVd,AbEbIbObUc,AbHAd,AbHAe,AbIbUbEbOb,AbIbUbEbOc,AbIbUbEbOcSMALL ,AbUbIbAAcEEcEbO",
  "AbUbIbAAcEEcEbOaAcWAb>IbAAcEEcEc>>,AbUbIbAAcEEcEbObWA,AbUbIbAAcEEcEbObWAd,AbUbIbAAcEEcEbOd>",
  "AcHA,AcHAc,AcHAcLLA,AcHAd,AcHAjVOWEL SIGN Ib,AcMAc,AcNYAd",
  "AfPSILI AND VARIAmdDASIA AND VARIAmdPSILI AND OXIAmc,Amb,Amc,B WITH ,BACK,BACKSLANTED SOUTH ",
  "BACKSLASH,BALL,BALLOON-SPOKED ASTERISK,BALLOT BOX WITH ,BAR,BARB ARROW,BARB ARROWmj",
  "BARB RIGHT ,BARLINE,BAcPAc,BEGIN ,BEH WITH ,BELOW,BELOWm,BELOWmb,BELOWmd,BELOWmg,BELOWmj",
  "BELOWmk,BELOWmmb,BELOWmmc,BELOWmmd,BELOWmmh,BENT,BESIDE ,BETWEEN ,BIRGA WITH ORNAMENT",
  "BISHOP ROTATED NINETY DEGREESmmfKNIGHT ,BISHOP ROTATED TWO HUNDRED SEVENTY DEGREESmmmgKNIGHT ",
  "BLACK,BLACK ,BLACK ARROWmk,BLACK CHESS ,BLACK CIRCLE,BLACK CIRCLED WHITE ARROW,BLACK LEFT ",
  "BLACK LENTICULAR BRACKET,BLACK RIGHT-POINTING ,BLACK RIGHTWARDS ARROW,BLACK SQUARE ",
  "BLACK SQUAREm,BLACK STAR,BLOCK DIAGONAL ,BOARD,BOLD ,BOLD SHAFT,BOTTOM,BOTTOM ,BOTTOM HALF ",
  "BOTTOM RIGHT ,BRACKET,BREATHY ,BREVE BELOW,BREVEmmbCAPITAL LETTER ,BREVEmmdSMALL LETTER ",
  "BRIDGE ,BSET OF ABOVE ,BUBBLE,BUILDING,BULLET,BUT NOT EQUIVALENT TO,C WITH ,C WITH CEDILLA",
  "C-SIMPLIFIED ,CANDRA ,CANDRABINDU,CANDRABINDU ,CANDRABINDUl,CAPITAL ,CAPITAL LETTER ",
  "CAPITAL LETTER O WITH ,CAPITAL LETTER O WITH HORN AND ,CAPITAL LETTER U WITH ",
  "CAPITAL LETTER U WITH DIAERESIS ,CAPITAL LIGATURE ,CAR,CARON,CARONmmbCAPITAL LETTER ",
  "CARONmmdSMALL LETTER ,CARRIER ,CAT FACE WITH ,CEDILLAmmdCAPITAL LETTER ",
  "CEDILLAmmfSMALL LETTER ,CENTRE,CENTRE TO ,CENTREgRIGHT,CENTREgRIGHTmmc,CHA,CHARACTER ,CHAd,CHE",
  "CHE WITH DESCENDER,CHECK ,CHESS KNIGHT ROTATED FORTY-FIVE DEGREESmm",
  "CHESS KNIGHT ROTATED ONE HUNDRED THIRTY-FIVE DEGREESmm",
  "CHESS KNIGHT ROTATED THREE HUNDRED FIFTEEN DEGREESmm",
  "CHESS KNIGHT ROTATED TWO HUNDRED TWENTY-FIVE DEGREESmm,CHI,CHO,CIEUC,CIEUCeHIEUCHh",
  "CIEUCeHIEUCHhKHIEUKHhTHIEUTHhPHIEUPHhHIEUHf",
  "CIEUCfSSANGCIEUCkCHIEUCHhKHIEUKHhTHIEUTHhPHIEUPHhHIEUHf,CIRCLE,CIRCLE ,CIRCLE ARROW",
  "CIRCLE INDEX MIDDLE ,CIRCLE WITH ,CIRCLED ,CIRCLED IDEOGRAPH ,CIRCLEm,CIRCUMFLEX ACCENT",
  "CIRCUMFLEX ACCENTmf,CIRCUMFLEX BELOWmmm,CIRCUMFLEX BELOWmmmCAPITAL LETTER ",
  "CIRCUMFLEX BELOWmmmcSMALL LETTER ,CIRCUMFLEXmmgCAPITAL LETTER ,CIRCUMFLEXmmiSMALL LETTER ",
  "CJK UNIFIED IDEOGRAPH-,CLICK,CLOCK,CLOCKWISE ,CLOSED ,CLOSED BY ,CLOSED LITTLE YUS,CLOSING ",
  "COLON,COLONfSEMICOLONj,COM,COMBINING ,COMBINING CYRILLIC LETTER ,COMMA,COMMA BELOW",
  "COMMA QUOTATION MARK ORNAMENTmmm,COMMAf,COMMAfFULL STOP,COMMAfFULL STOPj,COMMAm,COMMERCIAL AT",
  "COMPRESSED ARROW,CON,CONJOINED,CONJOINED ,CONJOINEDjBENT,CONSONANT ,CONSONANT SIGN ",
  "CONSONANT SIGN FINAL ,CONSONANT SIGN MEDIAL ,CONTAINING BLACK ,CONTAINS AS ,CONTAINS WITH ",
  "CONTOUR INTEGRAL,CORNER,CORNER ,CORNER BRACKET,CORNER BRACKETmhRIGHT CORNER BRACKETmi,CRESCENT",
  "CROSS,CROSS ,CROSSED ,CROSSED-TAIL,CROSSING ,CROSSmf,CRYPTOGRAMMIC ,CTION,CURL,CURLY ",
  "CURLY BRACKET,CURLY BRACKET ,CURREN,CURVE ,CURVED ,CYRILLIC ,D WITH ,DAD WITH ,DALETH",
  "DANDAeOUBLE DANDA,DANDAeOUBLE DANDAm,DASH,DASHED ,DASIA AND ",
  "DASIA AND OXIA AND PROSGEGRAMMENImmj,DASIA AND OXIA AND YPOGEGRAMMENImmi",
  "DASIA AND PERISPOMENI AND ,DASIA AND PROSGEGRAMMENImmPSILI AND ",
  "DASIA AND VARIA AND PROSGEGRAMMENImmk,DASIA AND VARIA AND YPOGEGRAMMENImmjPSILI AND ",
  "DASIA AND YPOGEGRAMMENImlPSILI AND ,DAc,DEPARTING TONE MARK,DER,DESCENDERmmfCAPITAL LETTER ",
  "DESCENDERmmhSMALL LETTER ,DI LETTER AaAcIaIcUaUc,DIAERESIS,DIAERESIS ,DIAERESIS AND MACRON",
  "DIAERESIS AND MACRONmmmgSMALL LETTER ,DIAERESISme,DIAERESISmmfCAPITAL LETTER ",
  "DIAERESISmmhSMALL LETTER ,DIAGONAL,DIAGONAL ,DIAGONAL HALF BLACK",
  "DIAGONAL STROKEmmlCAPITAL LETTER ,DIAGONAL STROKEmmmbSMALL LETTER ,DIALECT-P ,DIALYTIKA",
  "DIALYTIKA AND PERISPOMENI,DIALYTIKA AND VARIAfOXIA,DIAMOND,DIAMOND ,DIAMOND WITH ,DIGAMMA",
  "DIGIT ,DIGIT ONEdTWOcHREEfFOURdIVEeSIXcEVENfEIGHTfNINE",
  "DIGIT ONEdTWOcHREEfFOURdIVEeSIXcEVENfEIGHTfNINEkNUMBER ",
  "DIGIT ONEdTWOcHREEfFOURdIVEeSIXcEVENfEIGHTfNINEkNUMBER TEN,DIGIT ZERO",
  "DIGIT ZEROeONEdTWOcHREEfFOURdIVEeSIXcEVENfEIGHTfNINE",
  "DIGIT ZEROeONEdTWOcHREEfFOURdIVEeSIXcEVENfEIGHTfNINEk",
  "DIGIT ZEROeONEdTWOcHREEfFOURdIVEeSIXcEVENfEIGHTfNINEkNUMBER ",
  "DIGIT ZEROeONEdTWOcHREEfFOURdIVEeSIXcEVENfEIGHTfNINEmd",
  "DIGIT ZEROeONEdTWOcHREEfFOURdIVEeSIXcEVENfEIGHTfNINEme,DIGRAPH,DIGRAPH WITH ",
  "DIGRAPH WITH RETROFLEX HOOK,DIGRAPHj,DING ,DIRECT PRODUCT,DISH,DIVISION,DODEKATA,DOES NOT ",
  "DOES NOT CONTAIN AS ,DOLLAR SIGNlPERCENT SIGNm,DOT,DOT ,DOT ABOVE,DOT ABOVEfBELOW,DOT ABOVEj",
  "DOT BELOW,DOT BELOW AND DOT ABOVE,DOT BELOWj,DOT BELOWmmmkSMALL LETTER ,DOT PUNCTUATION",
  "DOTLESS ,DOTLESS J,DOTS ABOVEfBELOW,DOTSmm,DOTTED ,DOTTED LEFT-STEM TONE BAR",
  "DOTTED LEFT-STEM TONE BARmmf,DOTTED LUNATE SIGMA SYMBOL,DOTTED TONE BAR,DOUBLE,DOUBLE ",
  "DOUBLE ARROW,DOUBLE ARROW FROM BAR,DOUBLE ARROW WITH VERTICAL STROKE,DOUBLE ARROWmk",
  "DOUBLE ARROWml,DOUBLE BAR,DOUBLE DASH ,DOUBLE GRAVEmmiCAPITAL LETTER ",
  "DOUBLE GRAVEmmkSMALL LETTER ,DOUBLE HORIZONTAL STROKEmm,DOUBLE PRIME QUOTATION MARK",
  "DOUBLE STROKE,DOUBLE TRIANGLE,DOUBLE VERTICAL AND ,DOUBLE VERTICAL BAR ,DOUBLE VERTICAL STROKE",
  "DOUBLE ZAPYATAYA,DOUBLE-LINE ,DOUBLE-STRUCK ,DOUBLE-STRUCK CAPITAL ,DOWN,DOWN ,DOWN AND ",
  "DOWN AND HORIZONTAL,DOWN AND HORIZONTAL WITH ,DOWN AND LEFT,DOWN HEAVY,DOWN LIGHT",
  "DOWN POINTING INDEX,DOWN TACK,DOWN TACKj,DOWN-POINTING ,DOWN-POINTING TRIANGLE,DOWNWARD",
  "DOWNWARDS ,DOWNWARDS ARROW,DOWNWARDS ARROW ,DOWNWARDS ARROW WITH ,DOWNWARDS ARROWmd",
  "DOWNWARDS HARPOON WITH BARB ,DOWNWARDS THEN ,DOWNWARDS TRIANGLE-HEADED ARROW WITH ,DOWNWARDSmm",
  "DOWNWARDSmmmc,DOWNmmmm,DRAGON,E ISOLATED FORMmbFINAL FORMmb,E ISOLATED FORMmbFINAL FORMmbYU ",
  "E PLUS ,E WITH ,E WITH BREVE,E WITH CIRCUMFLEX AND ,E WITH DESCENDER",
  "E WITH DESCENDERmmgCAPITAL LETTER ,E WITH DESCENDERmmiSMALL LETTER ,E WITH DIAERESIS",
  "E WITH MACRON ,EAR,EARTH,EAST ,ED ,ED RIGHTWARDS ARROW,EEc,EEcAIc>>OOc,EEe",
  "EFT HEAVY AND RIGHT ,EGYPTOLOGICAL ,EIGHT ,EIGHT POINTED ,EIGHT POINTED BLACK STAR",
  "EIGHT SPOKED ASTERISK,EIGHT THOUSANDmcNINE THOUSANDmbTEN THOUSANDlWENTY THOUSANDmc,EIGHTH NOTE",
  "EIGHTHS BLOCK,EIGHTHkTHREE SIXTEENTH,EIGHTY THOUSANDmd,EKFONITIKON,EL WITH ,ELE,ELEMENT OF",
  "ELEMENT OF WITH ,EMLJAgIZHEdNITI,EMPTY ,EN ,ENCLOSURE,END OF ,END OF TEXT MARKme,ENG,ENT,ENT ",
  "ENVELOPE,ENd,EPSILON,EPSILON WITH ,EQUAL,EQUAL ABOVE ,EQUAL TO",
  "EQUAL TO OR LESS-THANjGREATER-THAN,EQUALS SIGN,EQUALS SIGN ,EQUALS SIGN WITH ,EQUALS SIGNl",
  "EQUALS SIGNmmd,EQUIHOPPER ROTATED NINETY DEGREESmm,EQUILATERAL ARROWHEAD",
  "EQUILATERAL ARROWHEADmmmg,EQUILATERAL ARROWHEADmmmh,EQUIVALENT TO,ER ,ER SYMBOL,ESH,ESS",
  "EST-CREE ,ET ,ET ORNAMENT,ETA WITH ,ETH,ETHIOPIC SYLLABLE ,ETbXcEaPcUTbXcUaPbRXc",
  "ETbXcEaPcUTbXcUaPbRXcRcYTbXcYaPbRXcR,EVEN,EVEN ,EVEN HUNDREDmbEIGHT HUNDREDmbNINE ",
  "EVEN THOUSANDmc,EXCLAMATION MARK,EXCLAMATION MARK ORNAMENT,EXCLAMATION MARKme",
  "EXCLAMATION MARKmeQUOTATION MARKmcNUMBER SIGNl,EXTENDED ARABIC-INDIC DIGIT ",
  "EXTENDED ARABIC-INDIC DIGIT TWO ABOVEiHREE ,EXTENSIONjLOWER ,EXTRA-LOW ,EXTREMELY HEAVY ,EXcE",
  "EXcEaPcUTbXcUaPbRXc,EYE,EZH WITH ,EbAAIdIaIcOaOc,EbAAIdIaIcOaOdY-CREE ,EbAIcCANDRA Oi,EbAIcOb",
  "EbAIcObAUc,EbAIcObAUmbSIGN ,EbHEd,EbIbOb,EbIbObUbVc,Emb,Emc,Emd,F WITH ,FACE ,FACE WITH ",
  "FACE WITH OPEN MOUTH,FACE WITH SMILING EYE,FACEk,FACEm,FACING ,FACING SVASTI,FALLING ",
  "FALLING DIAGONAL ,FATHATANiDAMMATANiKASRAT,FATHAfDAMMAfKASRA,FAc,FEATHER,FEH WITH ",
  "FIFTYfONE HUNDREDl,FILL,FINAL ,FINAL FORM,FINAL FORMmd",
  "FINAL FORMmdMEEM FINAL FORMmdNOON FINAL FORMmd,FINAL LETTER ,FINGER,FINGER ,FINGER-POST ",
  "FIRST QUARTER ,FIRST SUBUNIT,FISHHOOK,FIST ,FIST INDEX MIDDLE ,FIST LITTLE ,FIVE ",
  "FIVE EIGHTHS BLOCKmgTHREE QUARTERS BLOCKmiSEVEN ,FIVE FINGERS SPREAD,FIVE FINGERS SPREAD ",
  "FIVE HUNDRED,FIVE SPOKED ASTERISK,FIVEeTENcWENTYgONE HUNDRED,FLATTENED ,FLOORPLANE ,FLOURISH",
  "FOLDER,FOOT,FOR,FOR EVEN POWERS OF FOUR,FOR ODD POWERS OF FOUR,FORM,FORWARDh,FOUR,FOUR ",
  "FOUR DOTS,FOUR DOTS ABOVE,FOUR FINGERS ,FOUR HUNDREDlIVE HUNDREDmSIX HUNDREDk,FOUR POINTED ",
  "FOUR POINTED BLACK STAR,FOUR THOUSANDmIVE THOUSANDmbSIX THOUSANDl,FOURTH ,FRACTION ",
  "FRACTION ONE ,FRACTION ONE HALF,FRACTION ONE QUARTERhHALFiTHREE QUARTER",
  "FRACTION ONE QUARTERhHALFiTHREE QUARTERSmcONE SIXTEENTHj,FROM BAR,FULL STOP,FULL STOPj",
  "FULL STOPmd,G TIMES ,G WITH ,GAD OVER GAD GAR OVER GAR,GAN2 TENU,GAN2 TENUj,GAR OVER GAR,GAc",
  "GEMINATION MARK,GEORGIAN ,GESH2,GHAIN WITH ,GHE WITH ,GLASS,GLOTTAL ,GLOTTAL STOP",
  "GLOTTAL STOP ,GLOTTAL STOP WITH STROKE,GLOTTAL STOPm,GORAZDO NIZKO ,GRAM,GRAM FOR ,GRAPH,GRAVE",
  "GRAVE ACCENTm,GRAVEfACUTEfCIRCUMFLEXkDIAERESISme,GRAVEfACUTEfCIRCUMFLEXkTILDEf",
  "GRAVEmmbCAPITAL LETTER ,GRAVEmmdSMALL LETTER ,GRAVEmmmgSMALL LETTER ,GREATER-THAN",
  "GREATER-THAN ,GREATER-THAN ABOVE ,GREATER-THAN OR SLANTED EQUAL TO,GREATER-THAN SIGNmf,GREEK ",
  "GREEK CROSS,GREEK CROSSme,GREEN ,GUNU,H DIGRAPHl",
  "H ISOLATED FORMmbFINAL FORMkINITIAL FORMmMEDIAL FORMmd",
  "H ISOLATED FORMmbFINAL FORMkINITIAL FORMmMEDIAL FORMme,H WITH ,HA WITH DESCENDER",
  "HAH FINAL FORMkINITIAL FORM,HAH INITIAL FORM,HAH ISOLATED FORMmf,HAH WITH ",
  "HAH WITH YEH FINAL FORM,HAIR,HAL,HALF ,HALF BLACK,HALF BLOCK,HALF CIRCLE,HALF INVERSE ,HAM",
  "HAMZA ,HAMZA ABOVE,HAMZA ABOVE ISOLATED FORMmbFINAL FORM,HAMZA ABOVEmi,HAND,HAND WITH ,HANGUL ",
  "HANe,HARD SIGNj,HARD SIGNjYERUeSOFT SIGNj,HARPOON,HAc,HAd,HEAD,HEAD MARK,HEART,HEARTm,HEAVY ",
  "HEAVY AND LEFT DOWN LIGHT,HEAVY AND LEFT LIGHT,HEAVY AND LEFT UP LIGHT,HEAVY AND RIGHT ",
  "HEAVY AND RIGHT LIGHT,HEAVY BARB ARROW,HEAVY BARB ARROWmmd,HEAVY COMPRESSED ARROW",
  "HEAVY SALTIRE,HEAVY SHAFT,HEEN WITH ,HEH INITIAL FORM",
  "HEH ISOLATED FORMmbFINAL FORMkINITIAL FORMmMEDIAL FORMmf,HEH WITH ,HEd,HI TIMES ASH,HIEUH",
  "HIEUHl,HIGH ,HIGH TONEjLOW TONEi,HINGE ,HINGE INDEX MIDDLE ,HINGE LITTLE ,HINGED,HIR,HIRAGANA ",
  "HITTING CEILING,HITTING CEILING ,HITTING CHEST,HITTING FLOOR,HITTING FLOOR ,HITTING FRONT WALL",
  "HITTING WALL ,HOOK,HOOK ,HOOK ABOVE,HOOK ABOVEmmgCAPITAL LETTER ,HOOK ABOVEmmiSMALL LETTER ",
  "HOOK ABOVEmmmlSMALL LETTER ,HORIZONTAL,HORIZONTAL ,HORIZONTAL BAR,HORIZONTAL ELLIPSI",
  "HORIZONTAL SECANT,HORIZONTAL STROKE,HORIZONTAL STROKEmm,HORIZONTALmme,HORN,HREE ",
  "HREE HUNDREDmb,HREE THOUSANDmc,HUNDRED,HUNDRED THOUSAND,HUNDRED THOUSANDmk,HUNDREDk",
  "HUNDREDmONE THOUSANDmTWO THOUSANDl,HYPHEN,HYPHEN-MINUSm,I CAPITAL LETTER ,I LETTER ,I WITH ",
  "I WITH STROKE,IAN ,IAN LETTER ,IC ,IC LETTER ,ICAL ,ICE ,IDENTICAL ,IDEOGRAM B1,IDEOGRAPHIC ",
  "IDEOGRAPHIC TELEGRAPH SYMBOL FOR ,IEUNG,IGATURE ,IGHT,IGI GUNU,IGI GUNUiKASKAL,ILI,ILL,IMAGE ",
  "IN ,IN BLACK SQUARE,IN TRIANGLE,INDEPENDENT SVARITA,INDEX,INDEX ,INDEX BENT,INDEX MIDDLE ",
  "INDEX RING LITTLE,INDEX RING LITTLE ,INDEX THUMB ,INDEX THUMB SIDE,INDEX UPmmeINDEX THUMB ",
  "INDI,INDICATOR,INE,INEAR COLON,INFINITY,ING,ING ,ING FACEm,ING FACEmb,INGh,INGm,INITIAL ",
  "INITIAL FORM,INSIDE,INSULAR G,INTEGRAL,INTER,INTERROBANG ORNAMENT,INTERSECTION,INTERSECTION ",
  "INTERSECTIONm,INTERSECTIONmUNION,INVERSE ,INVERTED ,INVERTED BREVE",
  "INVERTED BREVEmmkCAPITAL LETTER ,INVERTED BREVEmmmSMALL LETTER ,INVERTED EXCLAMATION MARK",
  "INVERTED LAZY Smd,INVERTED SMALL V ,INVERTED V,INd,IOTA WITH ,IOTIFIED ,IOTIFIED BIG YUS",
  "IOTIFIED E,ISH ,ISHe,ISOLATED FORM,ISOLATED FORMmbFINAL FORM",
  "ISOLATED FORMmbFINAL FORMkINITIAL FORM,ISOLATED FORMmbFINAL FORMkINITIAL FORMmMEDIAL FORM",
  "ISOLATED FORMmbFINAL FORMkINITIAL FORMmMEDIAL FORMmc",
  "ISOLATED FORMmbFINAL FORMkINITIAL FORMmMEDIAL FORMmd",
  "ISOLATED FORMmbFINAL FORMkINITIAL FORMmMEDIAL FORMme",
  "ISOLATED FORMmbFINAL FORMkINITIAL FORMmMEDIAL FORMmf,ISOLATED FORMmbFINAL FORMmb",
  "ISOLATED FORMmbFINAL FORMmc,ISOLATED FORMmbFINAL FORMmd,ISOLATED FORMmbMEDIAL FORMmf",
  "ISOLATED FORMmh,ISOSCELES RIGHT TRIANGLE,IST,ITALIC ,ITERATION MARK,ITERATION MARKmc",
  "ITERATION MARKmj,ITbXcIaPbETbXcEaPdATbXcAaPcU,ITbXcIaPbETbXcEaPdU",
  "ITbXcIaPbETbXcEaPdUOTbXcOaPdOTbXcOaPc,ITbXcIaPbEXcEaPd,ITbXcIaPbEXcEaPdATbXcAaPcU",
  "ITbXcIaPbEXcEaPdATbXcAaPcUOXcOaPdOTbXcOaPc,IVE,IVE ,IZHITSA,IaIc,IaIcOaOcAa,IaIcOaOcAaAd",
  "IaIcUaUc,IbEbAaHcOa,IbUb,J WITH CROSSED-TAILmh,J-SIMPLIFIED ,JAPANESE ,JEEM INITIAL FORMmf",
  "JEEM INITIAL FORMmfHAH INITIAL FORMmeKHAH INITIAL FORMmf,JEEM ISOLATED FORMmg",
  "JEEM ISOLATED FORMmgHAH ISOLATED FORMmf",
  "JEEM ISOLATED FORMmgHAH ISOLATED FORMmfKHAH ISOLATED FORMmg,JEEM WITH ",
  "JEEM WITH HAH INITIAL FORMme,JEEM WITH YEH FINAL FORMmm,JEmjCAPITAL LETTER KOMI ",
  "JEmlSMALL LETTER KOMI ,JIHVAMULIYAlUPADHMANIYA,JIHVAMULIYAlUPADHMANIYAme,JOINER,K WITH ",
  "KAF WITH ,KAPYEOUN,KAPYEOUNPIEUPmb,KASKAL,KASRA,KATAKANA ,KATAKANA-HIRAGANA ,KAbHAdGAbHAd",
  "KAbHAdGAbHAdNGAdCAbHAdJAbHAd,KAbHAdGAbHAdNGAdCAbHAdJAc>",
  "KAbHAdGAcNGAdCAbHAdJAcNYAdTAbHAdDAcNAcPAbHAdBAcMAc,KAc,KAcELbMbNcObPEcERbScTEc,KAcGAc",
  "KEHEH WITH ,KEYBOARD,KHA,KHAH WITH ,KHAH WITH YEH FINAL FORM,KHAd,KHIEUKHh,KING ",
  "KING ROTATED NINETY DEGREESmmdQUEEN ROTATED NINETY DEGREES",
  "KING ROTATED TWO HUNDRED SEVENTY DEGREESmmmeQUEEN ,KINGeQUEENfROOKeBISHOPgKNIGHTgPAWN,KIRGHIZ ",
  "KISIM5 TIMES ,KIYEOK,KIYEOK-,KIYEOKgSSANGKIYEOKlKIYEOK-SIOSlNIEUNa-CIEUCfHIEUHlTIKEUTg",
  "KLYUCHEVAYA,KOETjPII KOETiBEI KOEThUON ,KRYZHEVAYA,L WITH ,LAGAB TIMES ,LAM,LAM WITH ,LAMDA",
  "LAME,LAMdMEEMeNOONeSEENeAINdFEHdSADdQAFdREHdSHEENfTEHcHEHeKHAHe,LARGE,LARGE ,LARGE CIRCLEm",
  "LARGE EQUILATERAL ARROWHEAD,LARGE SINGLEm,LAST QUARTER ,LATIN ,LATIN CAPITAL LETTER ",
  "LATIN SMALL LETTER ,LAbEbIbObUbVc,LAc,LEFT,LEFT ,LEFT AND ,LEFT BESIDE ,LEFT DOUBLE ",
  "LEFT HALF ,LEFT HALF BELOWmdRIGHT HALF ,LEFT HALF BLACKmdRIGHT HALF BLACKme,LEFT HALF RING",
  "LEFT HALFjRIGHT HALF,LEFT PARENTHESISmeRIGHT PARENTHESIS,LEFT PARENTHESISmeRIGHT PARENTHESISmf",
  "LEFT RIGHT ,LEFT SQUARE BRACKET WITH ,LEFT TO ,LEFT WHITE ,LEFT-,LEFT-POINTING ",
  "LEFT-POINTING TRIANGLE,LEFT-STEM TONE BAR,LEFT-TO-RIGHT ,LEFTWARDS ,LEFTWARDS ARROW",
  "LEFTWARDS ARROW ,LEFTWARDS ARROW ABOVE ,LEFTWARDS ARROW WITH ,LEFTWARDS ARROWmd",
  "LEFTWARDS ARROWmdRIGHTWARDS ARROW,LEFTWARDS HARPOON WITH BARB ",
  "LEFTWARDS HARPOON WITH BARB UP ABOVE ,LEFTWARDS OF ,LEFTWARDS TRIANGLE-HEADED ARROW WITH ",
  "LEFTWARDSjRIGHTWARDSmm,LEFTWARDSmm,LEFTeRIGHT,LENGTH MARK,LENGTH MARKmf,LENGTHENER",
  "LENTICULAR BRACKET,LESS-THAN,LESS-THAN ,LESS-THAN ABOVE ,LESS-THAN OR SLANTED EQUAL TO",
  "LESS-THAN SIGNmc,LESS-THANjGREATER-THAN,LETTER,LETTER ,LETTER A",
  "LETTER ALEPHfBETHeGIMELfDALETHgHEcWAW,LETTER ALEPHfBETHeGIMELfDALETHgHEcWAWdZAYINfHETHeTETHe",
  "LETTER ARCHAIC ,LETTER AaAcIaIcUaUc,LETTER AaAcIaIcUaUcEbAIcOb,LETTER AaAcIaIcUaUcVOCALIC Ra",
  "LETTER AaAcIaIcUaUcVOCALIC RaRcLaLkEbAIcOb,LETTER AaAcIaIcUaUcVOCALIC RbL,LETTER Ab",
  "LETTER AbIbUbKAcGAcNGAdTAcDAcNAcPAcBAcMAcYAcRAcLAcWAcS,LETTER FINAL ,LETTER K,LETTER SMALL ",
  "LETTER SMALL CAPITAL ,LETTER SMALL CAPITAL TURNED ,LETTER VEDIC ,LIGATURE ,LIGHT,LIGHT ",
  "LIGHT AND HORIZONTAL HEAVY,LIGHT AND LEFT ,LIGHT AND LEFT HEAVY,LIGHT AND RIGHT ",
  "LIGHT AND RIGHT HEAVY,LIGHT BARB ARROW,LIGHT BARB ARROWmmd,LIGHT CENTRALIZATION ",
  "LIGHT FOUR POINTED ,LIGHT VERTICAL AND ,LINE,LINE ,LINE BELOWmmgCAPITAL LETTER ",
  "LINE BELOWmmiSMALL LETTER ,LINEAR ,LITTLE,LITTLE YUS,LOGICAL ,LOGICAL ANDdOR,LONG,LONG ",
  "LONG DASH,LONG LEG,LONG STROKE OVERLAY,LONG TIP ,LONG-BRANCH-,LOW,LOW ,LOW LINE,LOW RIGHT RING",
  "LOW TONE,LOWER ,LOWER LEFT ,LOWER MIDDLE RIGHTmmeLEFT TO LOWER MIDDLE RIGHTmmcCENTRE TO ",
  "LOWER RIGHT,LOWER RIGHT ,LOZENGE,LUNATE SIGMA SYMBOL,M WITH ,MA ,MA ARCHAION,MACRON,MACRON ",
  "MACRONmmcCAPITAL LETTER ,MACRONmmeSMALL LETTER ,MAE,MAI ,MAN,MANCHU ALI GALI ,MARK,MARK ",
  "MARKER,MARKk,MARKl,MARKm,MATHEMATICAL ,MAcYAcRAcLAcVAc,MEASURED ,MEDIAL ,MEDIAL FORM,MEDIUM ",
  "MEDIUM BARB ARROW,MEDIUM SHADE,MEDIUM SHADEml,MEDIUM SHAFT,MEDIUM TRIANGLE ARROWHEAD",
  "MEEM FINAL FORM,MEEM FINAL FORMkINITIAL FORM,MEEM FINAL FORMkINITIAL FORMmmm,MEEM FINAL FORMmd",
  "MEEM FINAL FORMmmk,MEEM INITIAL FORM,MEEM INITIAL FORMmf,MEEM INITIAL FORMmmc",
  "MEEM INITIAL FORMmmd,MEEM INITIAL FORMmmm,MEEM ISOLATED FORM,MEEM ISOLATED FORMmg",
  "MEEM ISOLATED FORMmmd,MEEM MEDIAL FORMmeHEH MEDIAL FORM,MEEM MEDIAL FORMmeHEH MEDIAL FORMmm",
  "MEEM MEDIAL FORMmmb,MEEM WITH ,MEEM WITH HAH FINAL FORMkINITIAL FORM",
  "MEEM WITH YEH FINAL FORMmcALEF MAKSURA FINAL FORM,MEEM WITH YEH FINAL FORMmmj,MENT,MIDDLE ",
  "MIDDLE DOT,MIDDLE HOOKmmiCAPITAL LETTER ,MIDDLE HOOKmmkSMALL LETTER ,MIDDLE LEFT TO LOWER ",
  "MIDDLE LEFT TO UPPER ,MIDDLE RIGHT,MIDDLE RIGHT TO LOWER CENTRE,MIDDLE RING,MIDDLE RING LITTLE",
  "MIDDLE RING LITTLE ,MIDDLE THUMB ,MIDDLE TILDEmh,MIDDLE UP,MIDDLE-WELSH ,MIEUM",
  "MIEUMfPIEUPfSSANGPIEUPk,MILLIONS SIGN,MIN,MINUS SIGN,MOBILE PHONE,MODIFIER ,MODIFIER LETTER ",
  "MODIFIER LETTER CAPITAL ,MODIFIER LETTER SMALL ,MONO,MONOCULAR O,MOON SYMBOL,MOON WITH FACE",
  "MOUNTAIN,MOUTH,MOVEMENT,MOVEMENT-FLOORPLANE ,MOVEMENT-WALLPLANE ",
  "MRACHNAYAjSVETLAYAiTRESVETLAYA,MULTIPLE,MULTIPLICATION,MULTIPLICATION SIGN ,MUSICAL ",
  "MUSICAL NOTE,MUSICAL SYMBOL ,MYANMAR LETTER ,N WITH ,N WITH LEFT HOOK,NARROW SHAFT,NAc",
  "NEGATIVE CIRCLED ,NEGATIVE SQUARED ,NEPOSTOYANNAYA,NEPOSTOYANNAYAmc,NEUTRAL ,NEUTRAL CHESS ",
  "NEUTRALh,NGA,NGAd,NGAdCAbHAdJ,NGGE,NGK,NIEUN,NIKOLSBURG ,NINE ,NO-BREAK SPACE,NOON WITH ",
  "NORMAL SUBGROUP ,NORTH EAST ,NORTH EAST ARROW,NORTH EAST ARROWmmmg,NORTH WEST ,NOT ",
  "NOT ALMOST EQUAL TO,NOT EQUAL TO,NOT EQUAL TOmmf,NOT SIGN,NOTCHED ,NOTCHED TAIL,NOTE",
  "NOTEHEAD WHITEfBLACK,NUKTAfAVAGRAHAmbVOWEL SIGN AAcIaIcUaUcVOCALIC RaRk,NUKTAk,NUMBER ",
  "NUMBER ONEd,NUMBER ONEdTWOcHREEfFOURdIVEeSIXcEVENfEIGHTfNINEe",
  "NUMBER ONEdTWOcHREEfFOUReTENcWENTYgONE HUNDRED,NUMERAL ,NYA,NYAdTTAbHAeDDAb",
  "NYAdTTAbHAeDDAbHAeNNAd,NYAdTTAbHAeDDAbHAeNNAdTAbHAdDAbHAdNAc",
  "NYAdTTAbHAeDDAbHAeNNAdTAbHAdDAbHAdNAcPAbHAdBAbHAdMAc",
  "NYAdTTAbHAeDDAbHAeNNAdTAbHAdDAbHAdNAcPAbHAdBAbHAdMAcTSAbHAe,NYI,O WITH ,O WITH CIRCUMFLEX AND ",
  "OBLIQUE ,OBLIQUE STROKEmmkCAPITAL LETTER ,OBLIQUE STROKEmmmSMALL LETTER ,OBOLS SIGN,OF ",
  "OF BAMBOOS,OF CHARACTER,OF CHARACTERSmh,OF CIRCLE,OF CLUBSmb,OF CLUBSmc,OF DIAMONDSme",
  "OF DIAMONDSmf,OF HEARTSmc,OF HEARTSmd,OF OR EQUAL TO,OF SPADESmc,OF SPADESmd",
  "OGONEKmmcCAPITAL LETTER ,OGONEKmmeSMALL LETTER ,OLD ,OLD COPTIC ,OLD NUBIAN ,OLD TAMIL ,OMEGA",
  "OMEGA WITH ,OMICRON,OMICRON WITH ,ON ,ON LEFT,ON RIGHT,ONCOMING ,ONE,ONE ,ONE EIGHTH BLOCK",
  "ONE EIGHTH BLOCKmk,ONE HUNDRED ,ONE HUNDREDhTHOUSAND,ONE HUNDREDhTHOUSANDmh,ONE HUNDREDlTWO ",
  "ONE QUARTER BLOCK,ONEdTWO,ONEdTWOcHREE,ONEdTWOcHREEfFOUR,ONEdTWOcHREEfFOURdIVEe",
  "ONEdTWOcHREEfFOURdIVEeSIXcEVENfEIGHTfNINE,ONEdTWOcHREEfFOURdIVEeSIXcEVENfEIGHTfNINEe,ONEdTWOj",
  "ONG,ONT,OPEN,OPEN ,OPEN BOX,OPEN CENTRE ,OPEN CIRCLE ARROW,OPERATOR,OPERATORm,OPERATORmb",
  "OPOVODNAYA,OPPOSING ,OR ,OR EQUAL,OR EQUAL TO,OR EQUAL TOmm,OR EQUIVALENT TO,ORANGE ,ORIGINAL ",
  "ORNAMENT,OTTAVA ALTAeBASS,OTbXcOaPdOTbXcOaPc,OUND,OUTLINED ,OVER,OVER ,OVERBAR,OVERLAY",
  "OVERLINE,OXIA AND PROSGEGRAMMENImmj,OXIA AND YPOGEGRAMMENImk>PERISPOMENIa AND YPOGEGRAMMENImm",
  "OXIA AND YPOGEGRAMMENImmi,OXIAmcPSILI AND PERISPOMENImjDASIA AND PERISPOMENI,OXcOaPdOTbXcOaPc",
  "OXcOaPdOTbXcOaPcEXcEaPcUTbXcUaPbRXc,OXcOcOTbXcOaPc,OaOc,ObHOd,OgHIGH ,OhHIGH ,OhLOW ,P WITH ",
  "PAIRED ARROW,PALATAL HOOK,PALATAL HOOKmh,PALATAL HOOKmj,PANSIOSh,PAP PLUS LU3mj,PAR,PARA",
  "PARAGRAPH SEPARATOR,PARALLEL,PARENTHESIS,PARENTHESIS ,PARENTHESIS ORNAMENT,PARENTHESIZED ",
  "PARTIAL DIFFERENTIALmi,PAbHAd,PAbHAdBAbHAdMAc,PAbHAdBAbHAdMAcYAcRAcLAc",
  "PAbHAdBAbHAdMAcYAcRAcLAcVAcSHAcSAc,PAc,PENTAGON,PER,PERISPOMENIl,PERSET ,PERSET OF ABOVE ",
  "PERSON,PEcSADHEf,PHIEUPH,PIECEm,PIEUP,PIEUP-SIOS,PINWHEEL STAR,PIcRHO,PLASTICSk,PLUS SIGN ",
  "PLUS SIGNj,POINT ,POINTED ,POINTED BLACK STAR,POINTING ,POINTING BACKHAND INDEX,POINTING BUDml",
  "POINTING INDEXmhRIGHT POINTING INDEX,POINTING LEAFmm,POINTING UPWARDS BELOW",
  "POINTING VINE LEAFmmf,POVODNAYA,POVYSHE ,PRECEDES ABOVE ,PRECEDESiSUCCEED",
  "PRESENTATION FORM FOR VERTICAL ,PRISHTHAMATRA ,PRO,PRODUCT,PROSGEGRAMMENImm,PROSGEGRAMMENImmme",
  "PSILI AND ,PSILI AND PERISPOMENI AND ,PSILI AND YPOGEGRAMMENIml,PSILIfDASI,PUNCTUATION",
  "PUNCTUATION ,QAF WITH ,QUAD ,QUADRANT,QUADRANT CIRCULAR ARC,QUADRUPLE ,QUADRUPLE ARROWmmb",
  "QUADRUPLE DASH ,QUARTER,QUARTER ,QUESTION MARK,QUESTION MARKmb,QUESTION MARKmk,QUOTATION MARK",
  "R WITH ,RA ,RAIN,RAISED ,RAISED KNUCKLE,RAISED KNUCKLEmc,RAM,RAMMOS ,RAN,RAcLAc,RECTANGLE,RED ",
  "RED TRIANGLE,REH FINAL FORMmcZAIN ,REH FINAL FORMml,REH ISOLATED FORMmmc,REH WITH ,RELATION",
  "RES,REST,RETROFLEX ,RETROFLEX HOOK,RETROFLEX HOOKmc,RETROFLEX HOOKmj,REVERSE ,REVERSE SOLIDUS",
  "REVERSED,REVERSED ,REVERSED Ek,REVERSED OPEN ,RIC,RIEUL,RIEUL-",
  "RIEULa-KIYEOKgMIEUMfPIEUPfSIOSeTHIEUTHhPHIEUPHhHIEUHl,RIEULfMIEUMfPIEUPf,RIGHT,RIGHT ",
  "RIGHT AND ,RIGHT ANGLE,RIGHT ARROWHEAD ,RIGHT DOUBLE ,RIGHT HALF ,RIGHT HALF RING",
  "RIGHT SQUARE BRACKET WITH ,RIGHT TRIANGLE,RIGHT TURNSTILE,RIGHT WHITE ,RIGHT-,RIGHT-POINTING ",
  "RIGHT-POINTING TRIANGLE,RIGHT-SHADOWED WHITE RIGHTWARDS ARROW,RIGHT-TO-LEFT ,RIGHTWARDS ",
  "RIGHTWARDS ARROW,RIGHTWARDS ARROW ,RIGHTWARDS ARROW ABOVE ,RIGHTWARDS ARROW FROM BAR",
  "RIGHTWARDS ARROW WITH ,RIGHTWARDS ARROWme,RIGHTWARDS ARROWmml,RIGHTWARDS HARPOON WITH BARB ",
  "RIGHTWARDS HARPOON WITH BARB UP ABOVE ,RIGHTWARDS TRIANGLE-HEADED ARROW WITH ,RIGHTfLEFT",
  "RIGHTmm,RING,RING ,RING ABOVE,RING BELOW,RING LITTLE,RISING DIAGONAL ,RISING TONE",
  "ROCiPII ROChBEI ROCgUON ,ROMAN NUMERAL ,ROTATED ,ROTATED NINETY DEGREES",
  "ROTATED NINETY DEGREESmmd,ROTATED NINETY DEGREESmmf,ROTATED TWO HUNDRED SEVENTY DEGREESmm",
  "ROTATED TWO HUNDRED SEVENTY DEGREESmmme,ROTATED TWO HUNDRED SEVENTY DEGREESmmmg",
  "ROTATION-FLOORPLANE ,ROTATION-WALLPLANE ,ROUND ,ROUNDED ,ROUNDED CORNER,RcYTbXcYaPbRXcR",
  "RcYTbXcYaPbRXcRd,S AND ,S KHOKHLOM ON LEFT,S KHOKHLOM ON RIGHT,S KRYZHEM,S KRYZHEM ,S WITH ",
  "SAD WITH ,SAL,SAMEKHgAYINe,SAMEKHgAYINePEcSADHEfQOPHeRESHeSHINeTAW,SANS-SERIF ",
  "SANS-SERIF ARROWmmd,SANS-SERIF CAPITAL ,SAbHAd,SAc,SCHWA,SCISSOR,SCRIPT ,SCRIPT CAPITAL ",
  "SECOND ,SECTION,SECTION MARKm,SECTION MARKmh,SEEN WITH ,SEMI,SEMICOLONjCOLONf,SEPARATOR",
  "SEPARATOR ,SEPARATORmc,SET OF OR EQUAL TO,SH PLUS ,SHA,SHADOWED ,SHADOWED WHITE CIRCLE,SHE",
  "SHEEN WITH ,SHELL FLOPPY DISK,SHESHIG,SHINeTAW,SHO,SHORT ,SHORT RIGHT LEG,SHORT STROKE OVERLAY",
  "SHORT-TWIG-,SHTAeTSIdCHRIVIgSHAdYERUbIdATI,SHU,SIDEWAYS ,SIGMAfTAUdUPSILONhPHIdCHIdPSIdOMEGA",
  "SIGN,SIGN ,SIGN ANUSVARAiVISARGAm,SIGNmd,SIMALUNGUN ,SIMILAR ,SIMPLIFIED ,SINGLE ",
  "SINGLE-LINE NOT EQUAL TO,SINGLEgDOUBLE,SINGLEgDOUBLEgALTERNATING,SINGLEgMULTIPLEiBETWEEN,SIOS",
  "SIOSdSANGSIOSjIEUNGf,SIOSePANSIOS,SIX,SIX ,SIX POINTED BLACK STAR,SIX SPOKED ASTERISK",
  "SIXcEVENfEIGHTfNINE,SLANTED ,SLANTED EQUAL,SLANTED NORTH ,SLASH,SLOAN ,SMALL,SMALL ",
  "SMALL ARABIC LETTER TAH ,SMALL CIRCLE,SMALL DIAMOND,SMALL DOUBLEmLARGE ",
  "SMALL EQUILATERAL ARROWHEAD,SMALL LETTER ,SMALL LIGATURE ,SMALL LOZENGE,SMALL SINGLEm",
  "SMALL SQUARE,SMALL TRIANGLE,SMALL V,SMALLfLARGE,SMALLfMEDIUMgLARGE,SMALLfMEDIUMgLARGEaST",
  "SMILING ,SOFT ,SOLIDUS,SOLIDUS ,SOUND WAVE,SOUTH EAST ,SOUTH EAST ARROWmeRIGHTWARDS ARROWme",
  "SOUTH WEST ,SPEECH BUBBLE,SQUARE,SQUARE ,SQUARE BRACKET,SQUARE WITH ,SQUARED,SQUARED ,SSANG",
  "SSANGNIEUN,SSANGPIEUP,SSANGTIKEUTl,STAR,STER,STOP,STRA,STRAIGHT,STRAIGHT ,STRAIGHTi,STROKE",
  "STROKE ,STROKE AND ,SUBJOINED LETTER ,SUBSET,SUBSET ,SUBSTITUTION BRACKET,SUCCEEDS ABOVE ",
  "SUPERSCRIPT ,SUPERSCRIPT ALEF ,SUPERSCRIPT ALEF ISOLATED FORM,SUPERSET,SWASH TAIL,SYMBOL ",
  "SYMBOL FOR ,SYMBOLmd,SYMBOLmk,T OF ,T WITH ,TA ,TA WITH ,TACK,TAH WITH ,TAI LAING ,TAIL",
  "TAILmmdSMALL LETTER ,TAK4,TALENTS,TAbHAd,TAbHAdDAbHAd,TAbHAdDAbHAdNAc,TAcDAc,TEARDROP-SPOKED ",
  "TEARDROP-SPOKED ASTERISK,TED ,TEEN FULL STOP,TEEN FULL STOPmg,TEENiTWENTY,TEH WITH ,TELEPHONE",
  "TELEPHONE RECEIVER,TEN ,TEN THOUSAND,TENU,TENcWENTYfHIRTY",
  "TENcWENTYfHIRTYgFORTYeIFTYfSIXTYeEVENTYhEIGHTYgNINE",
  "TENcWENTYfHIRTYgFORTYeIFTYfSIXTYeEVENTYhEIGHTYgNINETYg,TENdELEVENgTWELVE,TER ,TERN,THE,THE ",
  "THER,THESPIAN ,THETA SYMBOLm,THIEUTH,THIEUTHhPHIEUPH,THIRD WHITE RIGHT POINTING INDEX,THOUSAND",
  "THOUSANDm,THOUSANDmc,THREE ,THREE DOTS,THREE DOTS ,THREE DOTS ABOVE,THREE DOTS ABOVEmmb",
  "THREE DOTS BELOWmmb,THREE POINTED BLACK STAR,THREE-,THUMB,THUMB ,THUMB FORWARD,THUMB FORWARDmg",
  "THUMB SIDE,TIC ,TICK,TIKEUT,TILDE,TILDE ,TILDE AND ACUTE,TILDE BELOW",
  "TILDE BELOWmmjSMALL LETTER ,TILDE OPERATOR,TILDE OPERATOR ,TILDEmmbCAPITAL LETTER ",
  "TILDEmmdSMALL LETTER ,TILDEmmmgSMALL LETTER ,TIMES ,TIMES ASH,TIMES BAD,TING ,TION,TION ",
  "TIONAL ,TO BAR,TO BLACK DIAMOND,TONE,TONE ,TONE BAR,TONE LONG FINALkFINAL,TONE MARK,TONE-",
  "TONOS,TOP ,TOP HALF ,TOP RIGHT FATHA,TOR,TORTOISE SHELL BRACKET",
  "TORTOISE SHELL BRACKETmmdRIGHT TORTOISE SHELL BRACKET,TORTOISE SHELL BRACKETmmj,TOS ICHO,TRA",
  "TRANSPOSITION ,TRE,TRI,TRIANGLE,TRIANGLE ,TRIANGLE ARROWHEAD,TRIANGLE ARROWHEADmmmj",
  "TRIANGLE CENTRED,TRIANGLE-HEADED ,TRIANGLE-HEADED ARROW,TRIANGLE-HEADED ARROW TO BAR",
  "TRIANGLE-HEADED ARROW TO BARmmmd,TRIANGLE-HEADED ARROWmmi,TRIANGLE-HEADED ARROWmmmm",
  "TRIANGLE-HEADED DASHED ARROW,TRIANGLE-HEADED PAIRED ARROWSmm,TRIANGLE-HEADED RIGHTWARDS ARROW",
  "TRIANGULAR ,TRIANGULAR COLON,TRIANGULAR MEDIUM SHADE,TRIANGULAR ONE QUARTER BLOCK",
  "TRIANGULAR THREE QUARTERS BLOCK,TRIPLE ,TRIPLE DASH ,TRIPLE VERTICAL BAR ,TSAbHAeDZAd,TSHEG",
  "TTAbHAeDDAbHAeNNAd,TUAREG YA,TUR,TURNED ,TURNED KINGeQUEENfROOKeBISHOPgKNIGHTgPAWN,TWELFTH",
  "TWELVE POINTED BLACK STAR,TWENTIETH,TWO ,TWO DOTS ,TWO DOTS ABOVE,TWO DOTS ABOVEmbHREE DOTS ",
  "TWO DOTS ABOVEml,TWO DOTS BELOW,TWO DOTS BELOWmc,TWO DOTS OVER ONE DOT PUNCTUATION",
  "TWO DOTS VERTICALLY ,TWO HEADED ,TWO THIRD,TWO-HEADED ARROW WITH ",
  "TWO-HEADED ARROW WITH TRIANGLE ARROWHEADSmm,TWOcHREE,TY ON BLACK SQUARE,TY THOUSANDmb",
  "TY THOUSANDmd,U OVER ,U PLUS ,U VARIANT FORM,U WITH ,U WITH DOUBLE ACUTE,U WITH HORN AND ",
  "U-SHAPED ARROW,U2 PLUS ,UAE,UBLE ,UMBRELLA,UNDER ,UNDERBAR,UNG,UNION WITH ,UP ,UP AND ",
  "UP AND HORIZONTAL,UP ARROWHEAD,UP DOWN ,UP HEAVY,UP POINTING INDEXmf,UP TACK ,UP-POINTING ",
  "UP-POINTING TRIANGLE,UPPER ,UPPER CENTRE TO ,UPPER HOOKk,UPPER LEFT ",
  "UPPER MIDDLE RIGHTmmeLEFT TO UPPER MIDDLE RIGHTmmcCENTRE TO ,UPPER RIGHT ,UPSILON WITH ,UPWARD",
  "UPWARDS ,UPWARDS ARROW ,UPWARDS ARROW WITH ,UPWARDS HARPOON WITH BARB ",
  "UPWARDS TRIANGLE-HEADED ARROW WITH ,UPcDOWN,UTbXcUaPbRXc,UTbXcUaPbRXcRcYTbXcYaPbRXcRd",
  "UXcUaPbRXcRcYTbXcYaPbRXcR,Ua OVER ,UbObEaEcIbAc,UbObEaEcIbAd",
  "UdBUKYeVEDEeGLAGOLIhDOBROfYESTUfZHIVETE,V WITH ,VARIA AND PROSGEGRAMMENImmk",
  "VARIA AND YPOGEGRAMMENImlYPOGEGRAMMENImb,VARIA AND YPOGEGRAMMENImmj,VARIANT FORM ",
  "VARIATION SELECT,VARIAfOXIA,VARIAfOXIAe,VAcSHAcSAcAcHAc,VAcSHAcSAcAcHAj,VER,VERTICAL,VERTICAL ",
  "VERTICAL AND ,VERTICAL BAR,VERTICAL BAR ,VERTICAL BAR AT END OF HORIZONTAL STROKEmm",
  "VERTICAL BAR WITH ,VERTICAL BARm,VERTICAL LINE ,VERTICAL LINEmb,VERTICAL SECANT",
  "VERTICAL SINGLE ,VERTICAL STROKE,VERTICAL STROKEmdDOUBLE VERTICAL STROKE,VERY HEAVY ",
  "VERY HEAVY BARB ARROW,VERY HEAVY SHAFT,VERY SMALL SQUARE,VIRAMA,VIRAMAg,VISARGA,VISARGA ",
  "VOCALIC R,VOCALIC RRcLLmfVOWEL SIGN VOCALIC LaLmj,VOICED SOUND MARKmfSEMI-VOICED SOUND MARK",
  "VOWEL ,VOWEL SIGN ,VOWEL SIGN AAc,VOWEL SIGN AAcIaIcUaUc,VOWEL SIGN AAcIaIcUaUcVOCALIC Ra",
  "VOWEL SIGN AAcIaIcUaUcVOCALIC RaRcLaLkEbAIcOb,VOWEL SIGN AAcIaIcUaUcVOCALIC RaRk",
  "VRACHYgMACRONg,W WITH ,WAAeWEST-CREE ,WAAm,WAAmcNASKAPI ,WALLPLANE ,WARDS ,WATER,WAVE ,WAVY ",
  "WAW WITH ,WAWdZAINeHAHdTAHdYEHd,WAc,WAcZHAcAc,WAdWEST-CREE ,WAmb,WEST ,WEST-CREE ,WEST-CREE SH",
  "WESTERN PWO KAREN ,WEmfCAPITAL LETTER ,WEmhSMALL LETTER ,WHITE ,WHITE ARROW",
  "WHITE ARROW WITHIN TRIANGLE ARROWHEAD,WHITE CHESS ,WHITE CIRCLE,WHITE CIRCLEm",
  "WHITE RIGHTWARDS ARROW,WHITE SQUARE,WHITE STAR,WHITEfBLACK,WIDTH ,WIGGLY FENCE,WIIeWEST-CREE ",
  "WITH ,WITHOUT ,WIbEEcEdSEBATBEIT ,WIdWEST-CREE ,WOMAN,WOOeWEST-CREE ,WORD ,WOdWEST-CREE ",
  "WRIST FLEX,WRIST FLEXkALTERNATINGa WRIST FLEXmmf,X WITH ,Y WITH ,YANNAf,YANNAh",
  "YANNAmhALPAPRAANA ,YAbUbIbAAcEEcEbOd>,YAc,YAcRAbRAdLAbLAbLAe,YAcRAc,YAcRAcLAc,YAcRAcLAcVAc",
  "YEH FINAL FORM,YEH WITH ,YEH WITH HAMZA ABOVE WITH ,YEORINHIEUH,YEOcEcObWAaEdOEc,YERU WITH ",
  "YIG MGO ,YING ,YODHeKAPHeLAMEDHgMEM,YODHeKAPHeLAMEDHgMEMdNUNd",
  "YOcIOTATED SMALL YUSmfBIG YUShIOTATED BIG YUSmdF,YOcUbWEOcEbIcYUc,YPOGEGRAMMENI",
  "YPOGEGRAMMENImm,Z NOTATION ,Z WITH ,ZEROeONEdTWOcHREEfFOURdIVEeSIXcEVENfEIGHTfNINE",
  "ZEROeONEdTWOcHREEfFOURdIVEeSIXcEVENfEIGHTfNINEe,ZIGZAG ,ZbCbQbXc,a ALTERNATE FORM,a AND ",
  "a CROSSING ,a GUNU,a MAHAPRAN,a MURDAi,a OVER ,a PLUS ,a PLUS ASH,a TIMES ,a TIMES A PLUS ",
  "a TIMES Ab,a TIMES KUR,a TIMES SHE,a WITH ,a WITH VERTICAL TAIL,a WRINKLEDi,aAbBbCbDbEbFbGb",
  "aAbBbCbDbEbFbGbHbIc,aAbBbCc,aAbBc,aAbBc7b8b9,aAc,aAc7aAc8b9,aAcWEdWEST-CREE ",
  "b WITH SMALL LETTER ,b7aAc8aAc9,b7aAc8b9,b7b8aAc9,b7b8b9,b7b8b9aAd,b7b8b9c,b7b8b9c1,b7b8b9c2",
  "b7b8b9c5,bHEdTEbHEdUbVEcXEc,bLbMbN,bTbUbVbWbXb,c10b1b2b3b4b5b6b7b8b9c2,dFINAL ,dFINAL NUNjNUNd",
  "dI-1b2b3b4b5b6b7dU,fHIRTEENiFOURTEENhIFTEENhSIXTEENgEVENTEENjEIGHTEENiNINE,fSMALL ,fTURNED ",
  "gHIGH ,hLOW ,iCROSSING ,iDOUBLE ,iTWO ,j>EaEcAIc>OaOc,jSMALL ,jTWO ,jVOWEL SIGN ,jYENISEI ",
  "kLEFT ,kORKHON ,kORKHON AE,kRIGHT ,kVOWEL SIGN ,kYENISEI ,kYENISEI AE,lORKHON ,mREVERSED ",
  "mTRIPLE ,mTURNED ,mb>>>>>>>>>,mbBLACK ,mbHREE DOTS ,mbKAPYEOUN,mbLEFT ,mbREVERSED ",
  "mbRUDIMENTA ,mbSIGN ,mbTURNED ,mcALEF MAKSURA FINAL FORM,mcDOUBLE ,mcLETTER ",
  "mcLETTER SMALL CAPITAL ,mcRIGHTWARDS ,mcS,mdBLACK ,mdCAPITAL LETTER ,mdLEFT ,mdMALO POVYSHE ",
  "mdWHITE ,meBLACK-LETTER CAPITAL ,meCAPITAL LETTER ,meRIGHT ,mfBLACK ,mfCAPITAL LETTER ",
  "mfDOUBLE ,mfSMALL LETTER ,mfTHREE EIGHTHS BLOCKmh,mfVOWEL SIGN ,mg>>>>,mgBLACK ",
  "mgCAPITAL LETTER ,mgMEDIUM ,mgRIGHT ,mgSMALL LETTER ,mgWHITE ,mhBLACK ,mhCAPITAL LETTER ",
  "mhDOUBLE ,mhLEFT ,mhLOWER LEFT ,mhSMALL LETTER ,mhWHITE ,miCAPITAL LETTER ,miDOUBLE ",
  "miRIGHT ARROWHEAD ,miRIGHTWARDS ,miSMALL LETTER ,mjCAPITAL LETTER ,mjLEFT ,mjLETTER ",
  "mjLETTER SMALL CAPITAL ,mjSMALL LETTER ,mjUPWARDS ,mkCAPITAL LETTER ,mkCAPITAL LETTER INSULAR ",
  "mkLETTER SMALL CAPITAL ,mkSMALL LETTER ,mkSMALL LETTER SOFT ,mlCAPITAL LETTER ,mlCIRCLED ",
  "mlRIGHT ,mlSMALL LETTER ,mlWHITE ,mmBLACK ,mmCAPITAL LETTER ,mmRIGHTWARDS ,mmSMALL LETTER ",
  "mmSMALL LETTER GLOTTAL ,mmSMALL LETTER INSULAR ,mmb,mmbBLACK ,mmbCAPITAL LETTER ,mmbDOUBLE ",
  "mmbRIGHT ,mmbRIGHT WHITE ,mmbRIGHTWARDS ARROW WITH ,mmbSMALL LETTER ,mmbSMALL LETTER VOLAPUK ",
  "mmc,mmcCAPITAL LETTER ,mmcGREATER-THAN ,mmcHEAVY ,mmcLEFT ,mmcLEFT RIGHT ,mmcLEFTWARDS ",
  "mmcLETTER ,mmcNORTH WEST ,mmcRIGHT ,mmcSMALL LETTER ,mmcUPWARDS ,mmcWHITE ,mmd",
  "mmdCAPITAL LETTER ,mmdCAPITAL LETTER OLD COPTIC ,mmdRIGHT ,mmdSMALL LETTER ,mme,mmeBLACK ",
  "mmeCAPITAL LETTER ,mmeDOWNWARDS ,mmeHEAVY ,mmeLEFT ,mmeLEFTWARDS ,mmeLETTER ,mmeRIGHT ",
  "mmeSMALL LETTER ,mmeWHITE ,mmf,mmfCAPITAL LETTER ,mmfHEAVY ,mmfRIGHT ,mmfRIGHTWARDS ",
  "mmfSMALL LETTER ,mmfSMALL LETTER DIALECT-P ,mmfSMALL LETTER OLD COPTIC ",
  "mmfSMALL LETTER OLD NUBIAN ,mmfWHITE ,mmg,mmgCAPITAL LETTER ,mmgSMALL LETTER ,mmh",
  "mmhCAPITAL LETTER ,mmhHEAVY ,mmhLETTER ,mmhSMALL LETTER ,mmi,mmiCAPITAL LETTER ,mmiHEAVY ",
  "mmiSMALL LETTER ,mmiUPPER ,mmj,mmjCAPITAL LETTER ,mmjLEFTWARDS ,mmjSMALL LETTER ,mmk,mmkBLACK ",
  "mmkCAPITAL LETTER O WITH HORN AND ,mmkCAPITAL LETTER U WITH HORN AND ,mmkLEFT ,mmkRIGHT ",
  "mmkSMALL LETTER ,mml,mmlCAPITAL LETTER A WITH BREVE AND ,mmlSMALL LETTER ,mmm",
  "mmmCAPITAL LETTER ,mmmRIGHT-POINTING ,mmmSMALL LETTER ,mmmSMALL LETTER O WITH HORN AND ",
  "mmmSMALL LETTER U WITH HORN AND ,mmmb,mmmbCAPITAL LETTER ,mmmbSMALL LETTER ,mmmc",
  "mmmcSMALL LETTER ,mmmcSMALL LETTER O WITH ,mmmd,mmmdCAPITAL LETTER ,mmmdSMALL LETTER ,mmme",
  "mmmeCAPITAL LETTER ,mmmeCAPITAL LETTER A WITH CIRCUMFLEX AND ",
  "mmmeCAPITAL LETTER E WITH CIRCUMFLEX AND ,mmmeCAPITAL LETTER O WITH CIRCUMFLEX AND ",
  "mmmeSMALL LETTER ,mmmf,mmmfSMALL LETTER ,mmmfSMALL LETTER U WITH DIAERESIS ,mmmg",
  "mmmgSMALL LETTER ,mmmh,mmmhRIGHTWARDS ARROW WITH ,mmmi,mmmiCAPITAL LETTER ,mmmj",
  "mmmjCAPITAL LETTER ,mmmk,mmmkSMALL LETTER ,mmml,mmmlSMALL LETTER ,mmmm,mmmmb,mmmmc,mmmmd,mmmme"
]

def nameEdits : List String := [
  "a<<SPACEfw%u[qFrS,itpznx[=1huwti%5wcy3.Cttmb$$rkmjEFTn2mh.4mcz(n2mit3&EiyT$%rkmhEFT uFmg]i.fuF",
  "mh?nf<<>(jmc!7|gCwZnQP),nRuHCYnUYENnPBROKwUsAk;8nTu6jCOPY.enVFEMI(iORDINpu!H|p%FvPqf~x(ui=0zml",
  "REGI=jv_;&&RgDEGREEnSPLUS-(Dmd=x[rmfpkMICROnRPILCROWnT&%kCEDz;Ah=xONxGMASCU%(ORDINpu!H|%.rvPqf",
  "~!VULGqvx.S~L!3.D$$pUyVu6j.?meEcswmcv&yUzqyUwrd(0?nm(^yVu6~i(UnTh$$On;[yyU^8pjmTzd|T;jRP ShpU",
  "yVu6j.?meEcswmcv&yUzqyUwrd(0?nm(^yVu6~9u.nU$%On;[yyU^8pjmTzdf^8ubpU&UpU&TpUsopUsnpU)RpU)Qsvpn",
  "svpmsvt8svt7CnoCnnsvs]svs[uLs]uLs[Dn[Dn?v&&Uv&&Tv&sov&snEnoEnnv&)Rv&)Qv&s]v&s[x_t8x_t7x_sox_sn",
  "GnoGnnx_s~x_s|yct8yct7Hn[Hn?zq?vzq?uzq&Uzq&Tzqsozqsnzq)Rzq)QInovFImks;IJmh=QIJ_^Jndt8Jndt7$Ps~",
  "$PCEDz;r;RA_?$npn$npm$ns~$ns|$ns]$ns[$n&%~W$n&%~MLn[Ln?(0pn(0pm(0s~(0s|(0s](0s?kPRECEDv_BY qs",
  "~jwY|GwYmes(&U(^&T(^so(^snOntpj~8Ontpj~Ts;OEmh=QOE_^.Fpn.Fpm.Fs~.Fs|.Fs].Fs[;Tpn;Tpm;Tt8;Tt7;T",
  "s~;Ts|;Ts];Ts[=.s~=.s|=.s]=.s[Tn[Tn?[y?v[y?u[y&U[y&T[yso[ysn[y.?~W[y.?~M[z~8[z~Ts,)R[y)Q],t8],",
  "t7^8t8^8t7^8ua^xpn^xpmZnoZnn^xs]^xs?m%^SgBn?BnueTOPsA|~r?TOPsA|q?.;||8?.;||U)nOgCnzCnxAF.9qGDj",
  "DnueTOPsA|~uLTOPsA_xDELTA|i.7;3f)nEgFnzFnxGnukAMMA|THV_)IOTAdn;KnzKnv$nsAjAMBDAn)~P[9Mi(1~S(0",
  "%^.fLEG~2s(&$?nmzd|z(^zd|bOI_|OI_)PnzPnumm%8YRjs&?.TWO|8?.TWO|Uwlmg%8.6wl LOOP|d=.,K~UTnzTnx=.",
  ".2[yzd|z[yzd|bUPSILONhVnvYnzYnxZn[Zn?EZHa .5|,EZH .5i^X=^|wTWOn)|0?.F!.|d?.F!.mk%8!3yM~YWYNNeD",
  "wZputamLrVRputambALVEOLqvtamc.Zta|0D^xs?mnd=P^xs?~[D^xs?|qLJ_KJ~fLJ_)NJ_KJ~fNJ_)pUs]pUs[zqs]zq",
  "s[(^s](^s[[ys][ys[[yu9[yu8~rs.qN~zqN~os.qMs?~zqMs?~os.qR~zqR|p[9E|UpUu9pUu8~sAnl~$Anl~sAv&&R~G",
  "Av&&R|&Gn[Gn?x_s]x_s[$Ps]$Ps[(^)R(^)Q(^OG)4K q0~q(^OG)4K q0~jw[s?~Gw[s?mcJnds[DZ_KZ~fDZ_)x_pn",
  "x_pmHWAIRfWYNNe(0yX(0yWpU.?nApopU.? qN~sAv&pj|~Av&pj|qOn,qN~n=qqOpUvYpUvXpU!6pU!5v&vYv&vXv&!6",
  "v&!5zqvYzqvXzq!6zq!5(^vY(^vX(^!6(^!5.FvY.FvX.F!6.F!5[yvY[yvX[y!6[y!5;Ttn~1;Ttn~P=.tn~1=.tn~PYO",
  "GH|NYOGH_^ycs]ycs[(0%^.fLEG~fuLuD|bOU_|OU_)ZnzZnxAnoAnnv&s~v&s|(^u9(^u8~rs(?oq0~n?oq0~dOnoOnnO",
  "nl~$Onl~s^8&U^8&Rmb$nuDl(0uDl=.uDlvGiB u!kQP u!|5An;Cn[Cn?$nsAk=.uh;T=$mf^x=$~MyK|,yK|iBn;U sA",
  "_3ViEn[En?Jn[Jn?=JQnu =^~kQnu =^~CRn[Rn?Yn[Yn)_xAip__3p_mBnv)nOgsvuDluL=^ezZl.7;3anumd)nEg.8Ea",
  "nu|gtd.8EmkvGn=Gnv;5G|XG|3GAMMAf.LS zdj[9HiHnukwYnumczrmOTAmf%nI|3$n&$?nmBELTe.0miEZHe[9M^~%|m",
  "kMnv(1j.0m|2N|3sA.QO|XOE|8td)WmPHId[9R^~%|izZmg.F%|i=^ex9mcE]8Sv_.Fx9~i%nRb!3R~SSnvwldvGn,qS~L",
  "SQUrT.6wlmgESycuD_xThnd.2U sAePSILONhVnwVbWbY|XY|3^x.1uDlEZH^~uD|wyNPHARYNGEpuVOICv_F.9AT!.|%",
  "!3yNjS[GTCHv_ClBILABIputamc=Js%B|3td)nEm_$GnvH|3!~[9K|XL|3Qnumm%8yMm_myM~wDZ u&EZy9Z u$uDmiTS ",
  "u&ESy9C u$uDmiFwY u!mLS u&Z u!ml%8BILABIpu,4CUSS!.mfDwZpu,4CUSS!.|z[9ycx9^&=^~_(IHanvJbRb[9Ra",
  "numgs%!3RmgWbYhPRIMEfvPPRIME_otsqsk.6tsbz( ylR!Qd$^mcyK_myK|VrB.fq|md[^mvbrBt2~Ys?f(G]i&RgpkyT",
  "&D]i&RgyTpke[Xmeyl[XmjtAD .lmd$^mk[?=?hvk,i(D|pBREVEfu~.?kOG)4Kg=J?nlvPpl(GRHO?kzZlt^ACCwZm=JG",
  "AMMAfLbSbXb.6yK|%EX[E-zK?;mhzK?;mbMID ?;m&D?;mw,?;mgYz?u1mkq7u1mmVOIC!PUNASPIRrVDlvPqsmf&DvbrB",
  "[^m$,rB.fq|mbNGi&$yTvPyTpkmc&D?nj.IthmsGzK?,mdEND zK?,mbsG&GmcEND &Gm;mLFf)n;mLFk&D$,rLtkyTpk",
  "t3?nf&Rg)]iBREVEfu_iIAE.XISjz1k.?kvPpls?f]hp4|K]hpbhyThs$!4mc[9tm pdtm p4l.6tm pbitm p8mfyS AC",
  "Cw0sMpj ACCw0sM$,=? sL.f=? sJe$,q9pbezde$?.[mi]AsKvj sL,hsL(D sJePALrULIZv_z0sO.0 sJivAiIAE.XI",
  "S sL.[ktnkEDz;AhOG)4Kg]hsJhspsJ!3vPARCH sQs? sIkIRCUMFLEX ACCw0sJlsml!3smmi?ql&SsJ&E_7&Emd?o)[",
  "mb;umi%~mh;s=2)[mj%^=2)[mi.l sN!3spsN=9sIlEAGULL sKX p4h]a?n_z)]mdyS ??mdpj ??mdy4,5KORONIShuj",
  " ?]md^umhsppbwasI__]hsI|tq9sJe(q?opbdHOMO?W?kpbep^ pe%Aq,sO]MsJhyREME $Omd.ipe$?.?miFERMrUhX ",
  "sIh$,rA|RsIfqM[?rA~Tyl.=peu^p8mdrR sI_z.[mf^!pbvPsmhEf&Ra sJ?nf!4mc.xsI~B$%rmCbDbHbMbRbTbVbX~L",
  "y4s&HETA|NHETA_^q!SAMPI|~q!SAMPI|p();!m&H();!|DPAMPHYLzsup~1PAMPHYLzsup~O>>^umb=J.6&N|.vM|p.6",
  "vM~x.Cs&YOT|B?]fuj ?]_)p|?]~OANO TwPIAks&w4?]mf==?]mc!c?]md>)Z?]mg>]J?]mg)X?]~S!cujnA?]m~Mp~$r",
  "fMUcNUcXIc)Yh,fd>;zf!cujmh]Juj~kp|?]mew4?]mf==?]mc!c?]md]JujnA?]~Tp~$rfMUcNUcXIc)Yh,f_YSIGMAl",
  ";zf!cujmh]Jujmk)Z?]mg]J?]mg)X?]~Bs%KAIn8gBETAn7?0]JzZn7pj qSncu7qSn5~lPHIn6In6KAIn5k%cKOPPA|T",
  "q!KOPPA|wSTIGMr;=PSTIGMAmh%8upmc=Pupmi%lOPPAm=PKOPPAmg%8SAMPIm=PSAMPImmCOP?ks&;mI|N;mI_^FEI|GF",
  "EI_?KHEI|NKHEI_^HORI|NHORI_^Gq6IA|YGq6IA|JSHIMA|TSHIMA|DDEI|GDEImly4KAPPAn8RHOn5k&NmgET?UYOTk",
  "s%?0iLUNrWw3nc.6LUNrWw3n5~M;r|G;rmes%&NmgET?USAN|GSANmeRHOn,=)s%.6&N|.vM|p.6vM~^uKs&Iv&ySmOcDJ",
  "EdGJEdUK.HzsIEmDZEdBYELORUSSIAN-UK.HzsImmYIcJEcLJEdNJEdT;meKJEdzqySm;sUhDZHEerjEcVEcGzGDEcIEcZ",
  "HEcEcIb;sIh$2UbEFcy%TSEdCzG;jbtEfy!EbYUbA_|rjEcVEcGzGDEcIEcZHEcEcIb;sIh$2UbEFcy%TSEdCzG;jbtEf",
  "y!EbYUbAcIv&ySmOcDJEdGJEdUK.HzsIEmDZEdBYELORUSSIAN-UK.HzsImmYIcJEcLJEdNJEdT;meKJEdzqySm;sUhDZH",
  "E_^)W|T)W|DYAT|GYAT_?!f|n!f|5%=|n%=|5!d%=~8!d%=~UBIG YUS|3BIG YUS|P!e~S!e~CKSI|GKSI_?PSI|GPSI",
  "_?FITA|NFITA_^!=|3!=|P!=ntyT~b!=ntyT~ZUK_|UK_);J)W|z;J)W|b)XTITLO~S)XTITLO~COT_|OT_)KOPPA|TKOP",
  "PAmg?4SnTkOMBIN!MuKTITLOfPALrULIZr0mcDASIA PNEUMATr=PSz. PNEUMATr;OKRYTIEiziSnTk(B~OYRz;zus&;s",
  "zq=^~W;szq=^~M;c=0;!|~;c=0;!|qE.F?l|,E.F?l|iyHUP[8N~NyHUP[8N|=yH=p~NyH=p|=yH&$zZ~byH&$zZ~ZZHv,",
  "~1ZHv,~PZv;Zv.KAnh~WKAnh~MKpU]l~mKpU]l~dKAn)~GKAn)|&BrOKIR KA|nBrOKIR KA|5ENnh~WENnh~Ls;wUGHEm",
  "l=QwUGHE|UPv&&(Pv&&&p3HA|,p3HA|iESnh~WESnh~MTv;Tv.=nU|n=nU|5=nUn)~k=nUn)m|5yd~Wyd~Ls;TE TSEml",
  "=QTE TSE|UtI~1tI~PCHv&]l~qCHv&]l~jSHHA|NSHHA_^p3tH|~p3tH|qp3tIm~Sp3tI~x%8PALOCHKA_)ZHv(~GZHv(",
  "|&KAn!KAnywO=_wO=^|iENn!ENnyE(0=_E(0=^|i$6KASSzstH~G$6KASSzstH|&E&O=_E&O=^mPALOCHKA|UpUsopUsn",
  "pUucpUu6~Bs;A IEmj=QA IE|JIv(|~Iv(|q;3|T;3|D;3ndu6~b;3ndu6~ZZHv=~1ZHv=~PZv=~WZv=~Mp3DZE|~p3DZE",
  "|qzq&Uzq&Tzquczqub(^uc(^ubsA.QO|8sA.QO|UsA.Q(^u6~msA.Q(^u6~dv&ucv&ub[y&U[y&T[yuc[yub[z~8[z~UCH",
  "v=~1CHv=~PGHv,~1GHv,~P^nu6~8^nu6~UyH=qqS~qyH=qqS~jHAn!HAnyHAn)~GHAn)|&KOMI DE|3KOMI DE|PKOMI D",
  "$LD$KZ$LZ$KDZJE|dKOMI DZJE|0KOMI L$LL$KN$LN$KS$LS$KT$LTJE|U.6ZE|z.6ZE|bELn!ELnyLHA|GLHA_?RHA|G",
  "RHA_?YAE|GYAE_?QA_|QA_)WE_|WE_)pxUT KA|8pxUT KA|UwO&(wO&&E(0&(E(0&&Pv;Pv.SHyd~8SHyd~UE(1~WE(1",
  "~MDZZHE|TDZZHE|DDtH|NDtH_^ELnh~WELnh~o>q(s&AYBdBw2GIMdu0ECHdZAcEHbTcTOcZzGINIdLIWNeXEHdCAcKw2H",
  "OcJAcGHADetHHeMw2YIcNOWdSy&VOctGPEHdJHEHeRAcSEHdVEWdTIWNeREHdCOcYIWNePIWReKEHdOHcFEHmg>>(G$^~L",
  "qskEMPHASIS &4XC$pr2metp.Cp1r2_|[9AYBkAYBdBw2GIMdu0ECHdZAcEHbTcTOcZzGINIdLIWNeXEHdCAcKw2HOcJAc",
  "GHADetHHeMw2YIcNOWdSy&VOctGPEHdJHEHeRAcSEHdVEWdTIWNeREHdCOcYIWNePIWReKEHdOHcFEHjz&ECH YIWNmeET",
  "?UYzr|%x[zmmd>>.qxOq(E?VITYnK~9%ExOq(E?VITYnK~2q(D.LnTg>HEBREW ACCw0ETNAHTAhSEGOLeykSHwPTkZAQE",
  "F QrUNfGADOLlTIPEHAgREVIAfZARQAfPrOTAgYETIVfTEVIRfGERwla MUQDAMk;jYIMjQARNEY ,QlTELI;j GEDOLr=",
  "PAZERfATNAH HAFUKHmMUNAHeAHAPAKHhER$6a KEFULr;DARGAfQADMAfTELI;j QETANr=YERAH BwUYOMOmcOLEdILU",
  "YeDEHIeZINORm&0MASO.Gt1g,j;mVAfHrUF SEGOLfPrUHfQAMATSlIRIQfTSEREfSEGOLfPrUHfQAMATSgHO$pa HASwj",
  "F)wVAVmhQUBUTSgDAGwl )wMAPIQmdMETEGkUNCTUr1MAQAFmeOINT RAFEjUNCTUr1PASEQmeOINT SHz?u]hz?u]mUNC",
  "TUr1S)CPASUQmj&0]Du]j&Hu]mc,;NUN HAFU$6mkOINT QAMATS QrUN|BpIpxFeBETdGIMELfDpxTfHEcVAVdZrffHET",
  "dTETdYOD_YKAFjKAFd$sDfxZMEMjMEM_Z;WxZPEiPEcxZTSADIlTSADIfQOFdRwleSHINeTAVko]YOD [Im%qYIDD!gvPV",
  "AVkVAV YODhvPYOD|%,;GERwld;jYIM|.pCqw($;!l;$SANAHkxo(x &1md;$SAFy&MVATl($&0pd-!GC CUBE ROOTjx&",
  "ROOTmg RAYe-!GC PwjMz;EnR?OnK~YFGHANInSRABzutpDrW;gPOE?k]8SEnX;$MISRAfSp?p[HOU ALAYHE WASSp[M",
  "|.ALAYHE ASSp[MmdRAHMATULLAH ALAYHEmeDI p[HOU ANHUmfTAKHp?USmbMp? zKTAHd%qp.$qYEH~OZprjxTkEMI",
  "thj%8&3wX[1vE &Z|%.C%lrOMIRI YEHmyqZAfp;p4lyrpe]|yup.yrsN^jyupxFeBEHdTEH MARBUTAjHcHEHeJEEMeHA",
  "Hd$6HeDALdTykeREHdZpreSEw2HEENeADdDADdTAHdZAHdA!bGHprf$4[hsRFARSI ^j!ak[hp4~lTATWEELh%8FEHdQAF",
  "dKAFd$pdMEEMeNOONeHEHdWAWdpymYEHkxSANixTf;jDDAfUKUNfMADDAH pbyrpalSUB;5pxFmc!3DAMMr=&0NO)0GHUN",
  "NAmeZWARAKAYi]z=V pbb!9pbkvAmi.6DAMMr=FrYpU[eu]Smh]_yrsJf-!GC uvmf ,4CwZnTDECIMpu;emf?4S ;emh",
  "xd,k=imf%8vFBEHdQAFl=xpxFmepxF WASLAeITH ]_ysfsQzKyqZAa pxFeWAWmc[yysm_4yrYEHmcTTEHaEHgBEEHe?K",
  ".;e?a vwlPEHdTEHEHfBEHEHfyhysl[f]apfiNYEHeDYEHeyh?bTtHHaEHhDDALdpw.;evA^&=JTAH~LykeDAykfULcpw",
  "?a vwcxxmmRREHdEyc=Vh.;evC=V sKvBml[iJEHd.Vxxmm;bvBml?9sI^&?a~;pp[j_rpg=[?bps?bvFFEHlxWu^MOVv_",
  "sIlsMVEHdxW?cPEHEHf,=u~?bKEHEHfSWrO KAFj$Q.;eu^pdNGc$Q?cGAF^~R!QbNGOEHfGAxH[fsOUEHdAxH?b$q=Vh",
  "u~?afsP(kvAmcGHUNNAlRNOONf(k.;e?9phHEH DOACHrOMExGTCzFu_mizFYEH pbcGOAL^~yrpgTEH MARBU=;GOALme",
  "]|R!Qb$fOEkOEcUbYUc$fYUk]|[iVEcFARSI YEHj^j=^e=Vme]|u^pdEb^j?9sNsAREE^~yrpix[%9E_azK%q;U$qpy~L",
  ",=$qpy~o&m$p pxFiJEEMe?8kSEENmdwWrbHl=i=,RUB EL HIZBmhMp? zK;KZEROmUP.fRECTq6ULqvZEROmmvFy( )C",
  "$6Hmi&qml&DSEENizKMADDAkWAWdYEHdzKYEHdNOONmdPLACE )CSAJDAHmdwTtA &D=kizK=kmk;KzK=kndxYv_tA~c=J",
  "&DMEEM_!Dpw!amh.V!a~Yw&^y~Tqx;nvAmiuMu^sMyGu^sR;$SINDHI qEjPOSTPOSI?%MEN|_zF!a~YSYRIAC wW,QyRm",
  "eSUPRA%.x?mhB%.x?mfPRAL!JmdBL!Jmdz6thmeth SKEWv_%WmgSUPRAL!J SKEWv_$)|%BL!J SKEWv_..etv[EuClHA",
  "RKLEqGOBELUSgMETOBELUSjA=jISCUSmh>p1r2mf%9LAPHf=xALAPHmfBwreGAMALa GAR;xNImcDALrYfOTLwm DALrY ",
  "RISHmhHEcWAWdZpreHwreTwra GAR;xNImbYUDHa HEhKAPHe$pADHgMIMdNUNdSEMKrYhxZSEMKrYmbEbPEc.6PElSADH",
  "EfQAPHeR!h;qd,4SzsBHwrfGyqALgDykrYmkPTHAHpSfu]TEDmbZQAPHpSfu]TEDmbRBASpSlvJZLA&Pz5kq6ULARmiHBA",
  "SpSg-ESASA u]TEDmgESASpSlRWAHAfFEMI(iu]mQUSHSHrbjRUKKA$6_8]avHmkzevHme(|%(pamgMUSICfsAREKHh>pP",
  "SOGDzsZHprf$6PHfFEmmqxsH?9z5LY sI~BvAnA?a~L?9,r^&[g~|WO u]S sInB|.!9sO=Vmeyh[h,r~!Dpw[msInA=JT",
  "AH~o!9sS.V=pmd;bxx|gps[h,mvopiWO u]S ]9LY pixW[j_r,r~!$4u~?af,r~(&wu|mh(k[k=JTAHdVmf$qsAm.V[m",
  "pgyu;b[mpflyh=KsIfq3mj;b=Kq3mk.V=Kq3mjyh=Kp4~lp.w(p4~^FARSI ^jw(p4lxvsJ~x]|w(p4~]YEH sAREv&w(",
  "pb~%yhw&xvsI~?;bw&xvp4~l!ami$Q[g~iTHAANAnCHp0;jVIYANIjNOONUfRp0Bp0LHAVIYANIjKAAFUfALIFUfVAAVUf",
  "MEEMUfFAAFUfDHAALUgTHAAeLAAMUfGAAFUeNAVIYANIjSEENUfDAVIYANIiZAVIYANIiTAVIYANIiYp0PAVIYANIiJAVI",
  "YANIitEVIYANIjTTAAeHHAAe$6AeTHAALUgZp0;mENUfAADHUgDAADHUgTOcZOcprUeGHprUgQAAFUfWAAVUmABAFz.gAB",
  "AAFz.jIBIFz.hEEBEEFz.jUBUFz.hOOBOOFz.jEBEFz.gYBEYFz.jOBOFz.gABOAFz.jSUKUNf%8NAAmfpFNKO uw%iv~I",
  "bEbUbOOcObDAGBASINNAkNbsFTAcJActGu0RAbRAd;2GBAdxU$1$(NA WOLOSOjMAcN^dr$^A^d(, WOLOSOkJONA JAc",
  "tGRr=tk;szL._mf%^DESCENu(?,mdzL._meNASp=vPu^phzK?.qsmi&G qsmh=%OO DENNENjGBAKURUNENmftpw$LAJA",
  "(,LANk>>DqhrbLANjOROMEnSTA&XnVSAMq&TqIALAFeBITdGA&XfDALATfIYcBp0Zw2ITcTITdYUTdKAAFeLABATfMIMdN",
  "UNdSI(bAThINcFIcTSAADIYhQUFdR!hSyyTAAFl&0INa-ALAFhOCCLUSIONjDAGwlkODIFIERnCEPEN?W?kYUT~BARK EP",
  "EN?W?kYUTmh]z%^EgEb);%^AAl%^AAhAAc);%^Ak%^AgAm(G;sAml]z;sAh%^UgUm(GI|A%^IgIbObSUKUNme&0NEQUDAA",
  "m>>,;NEQUDAAhAFSAAQfNGEDfBAUdATMAAUgSHIYYAALAAmkp1r2mf,;MELODzuQITSr;ZIQAAfQITSAfZAEFe[8UeARKA",
  "ANUhS)CMrOFAATmANNAAU|.>Mq5zvykQAfABbGbDbHcU;mNNAhAZcITcATTcKSAdK_VbScINcAPbSZcQbRbSHcTcDU;mNN",
  "AiKADdprkAFF.9r2meVOCp=yDmd>>,.mh>SYRIACnCMALrb$p (cJr,TTAdNNAbNAeBy&RAcLLAbLAeSSA|%o^qxp.r3F",
  "rZf?|mm.f&$=p|L&$=pmgr3$Ufsj$Umg;Ju_mcz( ;Ju]_,;Ju]mc;JvAmmu~r3?|nBm|y&$=pnB~Yr3sj$UnB~T?| qWR",
  "!Q|y&$=qqW.;~Yr3sj$U qW.;~T.fyqZAl$,yqZA~cTATWEwO);STRUCK yqZAfWAWmc[fsR%8THz?YEHmdBASE%(;Ju]m",
  "g.I;Ju]me%8(k!3=V|pyh!9sS=[vC?c$4[msI~%]a=^mb>P), &0pbdIAS[G &0pdo_=JzK^3AL-JUZme&D^3ISHMAAMgM",
  "AALAgTA;mELmkMADDA WAAJIBm=yMO$6SSAS|pvOD MADDr;ylMADDAnDMADDA|WsH=V sKyu$H[fpf=[[ixWvAnA?a~o",
  ",=u^sM$qvVmh&w?9ph^j[jnAyslu_~i.VLOOPmb]|u^WITHINmhROH!LYA YEHm&DpxFiDpw?c;U?cGAxH!3=pmm=nWAWm",
  "Zps!a phps?c$Qu^sM,=vAnANO u]S pfmsH=JMEEM pgPEyc=JMEEM pg?K=JTEH pf.V=JNO)0pg^j[jnA=JNO)0p4~(",
  "AF.9qGFEHdQAFdNOONmPEyc=Vme?K=Vmd?K=VmeCzF=Vmg$4=VmgyG?a|%AF.9qG,=?a~Y$H?afsQ$q=Kp4~lGRAFl=JFA",
  "RSI YEHjzKFARSI YEHjYEH sAREv&[j~L^3SAHiZAHmc$v;Ju|mjSUKUN sIl$vtVsJ;Ju^!T tVsI~9=J&DWAWhzK^3A",
  "R-RUBlSADdA!bQAFd(k$Umi&D(k$UmhzK^3rY-TykrZlS-SAJDAhN-NISFhSAKTAfQIFdWAQFAkxo(x &1md;$SAFHAmjD",
  "ISPU?GwWrbHmi[9DAM&PsMuExTfxSANmc?.)5u_mb[gmcLOOP p4k)5u^sK[kLOOP sL)nxSANmb=JzKWAWmcFrYpU.;e",
  "u_mi$UnjsJi$,q~p4|Rp4|VrA|RsNvP.ip4ani~i.ip4ni~LDAMMAnimc&0;yNO)0GHUNNA~TDEVANAGq&nL!3szmis$qq",
  "%8;sAhA_H!^]vbLjsyEi;sEhw_;sOhObr7(;?BNAbNNAe,Z^e]7]zOEbOxF;$(zsyEi;sEhw_;sOhObra]z,yxGAWmbOMc",
  "STRwmnLUDATTAgANUDATTAmiyTpk]zsy%^xEUEbUE_!QAcKHHAeGHHAeZAcDDDHAfRy&xUYYAd]wuOlIGIT ^ykp2;$zKS",
  "PAC!Mu]|WsyAiOEbOEdAWcUEbUEdMARWq& DDAlZy&y;YAiGGAdJJAdyNDDDAeBBAmjBE(bLI ANJIe;$s$qqpQEbAIc>>",
  "Obr7(=pR^f>$(o[Sy%;2r!jpM>>EbAIc>>Obra%lHq5 TAmeo~r6pIRRr&>YYAd]wpK%8RpU&$udmd&Hud~BRUPEE &Ze",
  ";!kuHCY NUMERAT)w)fe)5Lwm THqG?XDENO(CA?~~oDENO(CAT)w;|TEEN|.IS;jRgGq5 &2%pqlmjp2SqLHI &4h>>GU",
  "RMUKHInLADAK B!GkB!Gf]tm>%do]wAr7(=pR^f>LAbLAd>VAcSy%>r!jpL(!>]$o]wAr9o[UDAATko|%lHHAeGHHAeZAc",
  "RRAd>FAjo^pKTIPPIfADDAKfIRIdURAdEK ONKARi;$YAKrOlp1r0nTmpBJARATInM>%hme]ysyxFpPEbAIj]ysyOmcpPO",
  "br7(=pR^f>LAbLAd>]7pMsyEi>w_>Obra>>OMcpCpI]wpKp2RUPEEnRo[pIZHAk;$SUKUNeHADDAgMADDAHg?eu^NUK=;",
  "petVNUK=;pdTWO-tVNUK=;pfm>ORIYAnMpQEbAIc>>Obr7(=pR^f>LAbLAd>]7pM>>EbAIc>>Obr9o|)]mbAI %XmbU %X",
  "mcpIRRr&>YYAd]wpKIS;jRg%8WAjx;wLS~OpBTAMIL ;%>%do[EaEcAIc>,DAUc$1o[(cCAc>JAc>(,dTTAdo[NNAdTAc",
  "o[NAbNNAe,2o[MAc^e]7o]]$>>pO>>OMco_r6pFuxTw2)aDAYnPM)lHnRYv[nQDEBITnRCREDITnSAS p4nURUPEEnR($",
  ";!meo^ELUGUnNs!phqLRABINDUlqptkqmpff%h_9r7(=pR^e]7pMpOo|%XlAI %XmcpPTSAdDZAdRRRAe>>NAKAA.GPOLL",
  "Umb>>]wpKo^pLSIDDyqmx(uu xr|%)5xr|p[exr|gzexr|.)5xq|%[exq|pzexq~(;$TUUMUmfKANNADAnLSPAC!Mszmh",
  "s$qpSIDDyqm%h_9r7(=pR^dRAbRAdLAbLAd>]7pMpOo|%XlAI %Xmc>>pINAKAA.GPOLLUmbxU>]wpK>;$$MmmpEMALrb",
  "$pnNqmpblqLRABINDUlqq%pqlmcA_H!^]vbL_9r7(;?BNAbNNAe,Z^e]6TTTAl;$]d]rmhCIRCULqv]rmdAVAGRAHr;](",
  "pO%8u^REPHmd;$,QjpICHz;U MbYbLLLmfr6x))4-zh-qL-;|TIwrmmxpTIwrm?7Ez(IwrSme)5[diwZHj?7[dSme)5FIF",
  "THmg%cIIk]w>>uxTw2)ax;wLS|gDrW&Zj%8CHz;U NNcNbRRcLaLcK|g>SINykAnLs$qlYAk]tYr=>%9^9rcgE^9EYANNA",
  "iI^9I^aU^9U^aIRU^9UYANNAiLU^9UYANNAjE^9E^aAI^aO^9O^aAUYANNAgo[LPAPRAANA KrdKA^bGrdGreKqhAJA NA",
  "ASIKYrbmgSA(,KA GrcmdALPAPRAANA CrdCA^bJrdJreTAALUJA NAASIKYrbkSANYOOGA NAAKSIKYrb|.SA(,KA Jrc",
  "mdALPAPRAANA TTreMAHAAPRAANA TTrcmiALPAPRAANA DDreMAHAAPRAANA DDreUURDHAJA NrcmfSA(,KA DDrcmeA",
  "LPAPRAANA TrdTA^bDrdDreDqhAJA Nrcmd>SA(,KA DrcmdALPAPRAANA PrdPA^bBrdBrcmf^aAMBA BrcmYA^aRA^a>",
  "DqhAJA Lrcmd>>VA^aTAALUJA SrcmdMUURDHAJA SrcmfDqhAJA SrcmdHA^aMUURDHAJA LrcmfFrcmc>pLAL-LAKUN",
  "r=o]]zAELpYkKETTI AEDpYmeDIGA AEDpYmdKETTI IS-Pz;r=DIGA IS-Pz;r;KETTI PApYmd>DIGA PApYmc>GAETT",
  "pYmKOMBUVAhDIGA KOMBUVAmKOMBU DEKAfVA HAA AELpYkDIGA AELpYmdGrbNUKITTAmlGrbNUKITTAmko_LITH uy>",
  ">]zDIGA GAETTpYkYANUKITTA|%,;KUNDDALIYA~LpDTHAI tFKO KAIfHO $6IcUATdWAIdONeRAKHq6lNGO NGUhtP ",
  "tENc!Ldq6jSO SOftP tPEiYO Y!PDO tEDAiTO PrUKhHO TyyNq6M)lHOkPHUTHAOlNO NENgDO DEKgTO TAOfHO TH",
  "[;dAyy)kjNO NUfBO BAIMAIjPO PLAfHO PH[;jFO FAfPHO PHANiFO FANgPHO SAMPHAOlMO MAfYO YAKgRO RUAf",
  "UcLO L!LgUcWO WAENhSO ;VAeRUSIeSUAgHO HIPgLO CHULAiO q6fHO NOKHUKjPAIYANNOIjSA.GAg&WHAN-AKATmS",
  "A.GAAbMc!?UEaEdUaUhPHINTHUmeo]URRENCY =%BAHTmhHARAC?USA.GEbAEcObAI MAIMUANdALAImeLAKKHq6YAOlMA",
  "IYAMOKfTAIKHUg EKcTHOcRIdtETTAWAmTHqhHA$6TlNI$6HITiYAMAKKANiF)k&XmfuwtFq6$6NKHUkKHOMUTmjo.LAO ",
  "%lObHO S[;e>TAMh>PALI GHAiNGOdCOcPALI tEiSO TAMg>PALI JHAiNYOdPALI (.HAeNNAiDOcTObHO S[;eTAMhP",
  "ALI DHAiNOcBOcPObHO S[;iFO TAMgPHO TAMhFO S[;hPALI BHAiMOcYOcLO L!Ld>OOTh>WOcSANSKRITnHcSAlO S",
  "[;hHO S[;hPALI LLAiObHO TAMmbELLIPSISi]zAb&WKANhAAbMc!?YaYcUaU_wPALI ]rme]z&WKONmg;c]zLOcNYOmg",
  ">>]zEaIcObAYbImb>KO LAf>?.&WEKcTHOcIcCrUWAmdCqKLLr2mfNIGGAHITAjpK>>HO NOcMOf%lHMU GOcNYOmh<<TI",
  "BETANn4OMl&0G?U^oTRUNCrXAl-UM RNAM BCAD MAmG?U[5 MA~L!R^oMDUN MAmltg^oSGAB MAmkARwo^oPHURnHD M",
  "A|p^o[5nHD MAmjSBRULnHDkBSKUR YIG MGOmKA- ;rG YIG MGOmf!WSYLLABzu[5mhDELIMI?U[5 B=imj;jDe(]SnH",
  "Dj[5nHDk(]S [5nHDmdRz?CHwUSP[;SnHDmhGYA yPnHDmcs=wo-DZUD RTAGS ME %^CAN~BG?U[5mdLOGOTYPEnLtED ",
  "RTAGSkLHAG RTAGSmmrQRO%?;$SG.GGCqG-CHqvRTAGSmj-KHYUD PAjSD)k T;xGS~L;$RDEL DKqvGCIGd(]SeSUMjNA",
  "G GCIGd(]SjDKqvRDEL NAGmluveyl)iZEROmd&0BSDUS RTAGSl(bS BZ[; (] ZLAmgs=wo-DZUD RTAGS BZHI MIG ",
  "CAN~L(bS BZ[; SG)wRTAGSmjtH MGOhTSA -PHRUjGUG RTAGS GYONcASmcq7KHq7GYONcASmh;$YqvT;mSjMqvT;mS",
  "_!$Z([DZrr^BoHSy%;2r$AbKSSAeFIXED-xs Rr;KKAdRRAko]]%RcLaLkEaEcOaO_wRJES SU (b ROmbNAM BCADmc]z",
  ".6IaImk;$(] ZLA NAA DA_&NA LDANmb&0ykqhAhPALUTAl;$LCI RTAGSjYq7RTAGSkLCE TSA CANlMCHU CANiGRU ",
  "CqGRGY!LSlMv_RGY!LSmd!3MCHU CANmjUBJO!IDnLLCE TSA CANlMCHU CANi!3MCHU CANmk%8$Z([DZrr^BoHSy%;2",
  "r$AbKSSAeFIXED-xs ^A^dRA~L>KU RU $6a BZHI MIG CANmkCqhz;r0nLy;BEATk%sBEATkCq7TE-UjSBUB -Cyk|.",
  "=%DRIL BUhRDO RJEhPAD&PGDANkRDO RJE RGYA yPmfPHUR PAhN)wBUa (]S -KHYILlGSUM -KHYILlBZHI -KHYIL",
  "mm>IGN RDEL NAG RDEL DKARjGSUMmg&0BSKA- ;rG GI MGO RGYANmlM(,M YIG GI MGO RGYANmk(]S [5k!RBRDA",
  " RN^p^oMDUN MA~9tgBRDA RN^p^oSGAB MA~].qxPnTm%ExPnTl.qxPnOvIk%ExPnOvIjTIBETqG&0LEAu(MCHqGRTAGS",
  "mh[EIL!MMCHqGRTAGS~Yo.(Z$YN^d(,e[6?C,0^ASr%dAbSHqGAg!^EbM)0EfObAU_cTp? AAhAAc!^EbAIcM)0IIcOfE ",
  "pd;$qnvC]tf.LAgASATjt%^fWr!mm%8GRErTSAmduw;$%; ;8mc;8lYMBOL LOCAT!.itjPLETEDjAxpE&!I)4DmcGENIT",
  "IVxG%7nHcSAd]vaRcLaL|A]vaRcLaL|WM)0(cJy&BBAbxFt!M)0&8Nr)LA|_SGAW KARENnHm_cSGAW KARwUEUmm?? SG",
  "AW KARwUHrYIfKE PHO|%%8^HTy&PWA|.]z^HEUcUE~O;$^H?,oA~B%8EAS?V PWO KARwUNNAdYWAdGHWAm|AGEBA KAR",
  "wUImKrbH OEcUbEEmh%7nHN KrqyCCAcZr,u0(3Py&xUBAcTy&Hr=t!SHqG&8WAm|ASHqGAAcEa p4hxZYml;!nHN ?[os",
  "b5b6gCOUNCIL ?[osgEMPHA?k?,~RRU&WPALA[; FAml;$RU&WPALA[; ?[5mmHqGuvmcIGN KyqTI ?[1b3mg]zAIT)0A",
  "aImh=%SHqG)4dEXC$pr0~OyEs&qreRAEdSANdTrMUNcPHARe$6ReGyyQrMSHINeCH!bANdJILdCILcHAReXANdJyyHAEcE",
  "bIEdWEcHARcOEd>YNco^AENmg>pPqreRAEdSANdTrMUNcPHARe$6ReGyyQrMSHINeCH!bANdJILdCILcHAReXANdJyyHAE",
  "cEbIEdWEcHARcOEdFIcYNcELIFI_3GANkprk,R|.(GyENAR|.yE%9w2yzLABIALnK|%yxtPSE)k $hg=e$hl(gf?mg=h.d",
  "=gjIOSdSq6;]jz%ftT(g-$hm=fk(g-?mg,cl?m-$hmb.b(gl=e.ak.bzJ$R.amb&~-,cl$R&~mb,coM;]aoN,cjSq6;]iI",
  "OS-tQktR?2_s,cf=gmg;]oM.af&~f,ca-$hm=e;]jz%ftR$a?2hzIktOTUEUM;]dSq6;]meE)ktOEUM;]dSq6;]mi,Nz%",
  "oN&~f,cf;_mb=ez%kz%-tR?2mbYESz%itQ-z%kHITUEUMtQf=etQmfE)ktOEUMtQf=etQmiHIEUCH-$azIkTUEUMtOEUCH",
  "mcE)ktOEUMtOEUCHmg,a-,c_s,amd=ezIk^ll$i?mmb(g-;]etQfzJ?m-.amxYERmdJ[;SE)k xYERgri^m^tEUcYIcIbA",
  "-ObUdYA-ObYOfEO-ObUbEUfYEO-ObUfO-EOcEbYEcObUdYO-YAaEcEOdObIeU-AaEcEO-EUfYEcUdYU-AbEOcEbYEOcEcU",
  "bIeEU-UbEUfYI-UeI-Ab^dObUbEUcARAEAhARAEAa-EOcUbIh=eARAEAkA-EUeYA-UdEO-YAgO-YAaxF)kSE)k $j.c&~f",
  ",ca-;]k;^tS$i.af;]-$hmg(goN;_h?1mb?moL.am.b$i;]l(gf?ma-zImg=e.ak.b&~oL;]k,dezJ$S=e;]j,N$a^lmf",
  "&~oL.af,cf;]dSq6;]j,NtOEUCHhzJ$R&~mb,c-.af,ahzJ$S;]oN.af,ck,Nz%oL=e$hmf=ez%kz%-KHIEUKHmbYESz%a",
  "-;_me,a-,c_s,amdzI-(gf.af&~f,cl^ll$i(gf,cftOEUCHh$azIm=f|%wsHrvaAdLryHHrxeMrySZrxeRrySrxcHrxeQ",
  "rwHrvb>WAb>IbAAcv~Ee>>BryVryTryCryXrv_HWAb>IbAAcv~Ed>>NrxcYrxeyJrxkKrwXrvb>WAb>IbAAcv~Ee>>Wrva",
  "AdPHARYNGEpurvm>ZrxcHrxeYrvaAdDrxcDrxeJryGrwGrxAfTHrxeCHrxePHrxeTSryZrvaAeFryPryRYAdMYAdFYAmpJ",
  "GE(Cr0nA]y%X~T]y%YyD|g;9WORDSPACEjx[tp;dPRExIthmb.C,Rmhus?Szhh?Omho[SYLLABLE SEBATBEIT M^DM^ZB",
  "^DB^ZF^DF^ZP^DPWIbv~EmTONpu&0YIZETfu2ETfRIKRIKg;sRIKRIKmDIFATfKENATfCzQETgHIDETfu2ET-HIDETlKUR",
  "Tmmo_tHROKEEnCrmVbyC$1GxDHrn$&Mrp(3HNAdNAHcxDQUro;2SaxDu0TAcDEcTEcDIcTIcDObUbVbLAdT$&SroWrnYrn",
  "MVjpNYxDMVml>>ANpqzmgw]YoIOOjs^v~IjA_HWEaSToIWElIbwnWIlIIcwnWIImObwnWOlOOcwnWOOmbNASKAPI WOOlW",
  "AbwnWAlAAcwn];bNASKAPI WAAlAIcYoIWiyNxZpjfySfsiR!Qe?_R!Qb.lmbNGevPpjf;s]lS~B&%k;szamlPLUSevjmd",
  "ENcINcONcANcPw^POOks^Hv~IkPA_JPWxEP^0PWImbP^WPWIImcP^4PWOmbP^2PWOOmcP^CP^DP].P];cYoIPWAAlPb^FP",
  "ls^HjTw^TOOks^Dv~IkTA_JTWxET^0TWImbT^WTWIImcT^4TWOmbT^2TWOOmcT^CT^DT].T]=T];TaTxCAdKw^KOOkKA_J",
  "KWxEK^0KWImbK^WKWIImcK^4KWOmbK^2KWOOmcK^CK^DK].K]=K];KaWcSOUTH-SLAVEY KEHcIHcOHcAHmeCw^COOkCA",
  "_JCWxEC^0CWImbC^WCWIImcC^4CWOmbC^2CWOOmcC^CC^DC].C]=C];CbSrgTHjMw^MOOkMA_JMWxEM^0MWImbM^WMWIIm",
  "cM^4MWOmbM^2MWOOmcM^CM^DM].M]=M];Mb^FMlMHcrZPASCqGMmSrgMiNw^NOOkNA_JNWxEN^CN^DN].N]=N];Nbs^NGk",
  "NHcLw^LOOkLA_JLWxEL^0LWImbL^WLWIImcL^4LWOmbL^2LWOOmcL^CL^DL].L];cLb^FLl&8LiSw^SOOkSA_JSWxES^0S",
  "WImbS^WSWII_&^4SWOmbS^2SWOO_&^CS^DS].S]=S];SbrZPASCqGSmSWcsZxo SlMOOSEoISKmbNASKAPI SKWc-WcPWA",
  "dTWAdKWAdCWAm;mb![AcWEe^GWE_&HWIe^GWI_&HWIIf^GWIImdSHWOe^GWO_&HWOOf^GWOOmdSHWAe^GWA_&HWAAf^G];",
  "dSHcYw]oIYOOjA_JYWxEY^0YWImbY^WYWIImcY^4YWOmbY^2YWOOmcY^CY^DY].Y]=Y];YbBIBLEoIYm^FYlSrgYIjREb",
  "oIREj^FLEmRAAId!?OaOd^FLOmRAaAd^FLAmR].R];cRb^FRl&8RiFw]A_H].F];cFbTzGNoJEkTHIdNoJIkTHIIeNoJII",
  "lTH,DA_HWAAf^FTH];dTHbTHxCAcHcYxCAdNUNAVIK HEb!]HeUT HjHKcQAAId!]QbTLHxCAe^FRxCAm(bAId!]GbNGdS",
  "rgSHxCAkWOODSoJxCAcHmbLH!]HcTHoJEb!]HkAIVz.K BjsZxo xCAbWxCAcNxCAcKxCAmSrgHxCAjs^GH]WR]VW]VHW",
  "]WTH]VT]WP]VPbG]VKH]VK]VKcN]VM]VY]VJUkSrgJUjs^JObEaEcIkSrgJIjs^JAbJ]WL]VDL]WLH]WTLH]V]WZ]VZb!R",
  "ZjDZ]WSUbObEaEcIbAbH]VHcTS]WCH]WTTSUbObEaEcIbAlHInPx[QAId(bIdNG![AfWOODSoJWv~![AfxZTHmhsZxo W",
  "~LOGyqn0 &2%8BEITHfLUISeFv[NfSAILeNIONeUrYeDAIReTINNEfCOLLdEIRTfMUINeGORTeNGEADALh=lIFgRUISeAI",
  "LMeONNdURcEADHADHhIODHADHhEABHADHhORcUz;EANNiIFINeEAMHANtPLLlPEITHmxV &Z_mxV &Z|%o[RUNzvFEHU F",
  "EOH FE FmcVbURUZ UR UjYRcYbWbTHURISAZ THURS TzdmiwrdANSUZ AhOS OeAC AdESCe&BOSS Omf;vOSS OmeOa",
  "EbNcRAIDO RAD REID RmeKAUNAfCw2KAUN KgGbwYdGEBO GYFU GkrMWUNJO WYNN WmHAGLAZ HgEGL Hh&BHAGp? H",
  "mi;vHAGp? HmhNAUDIZ NYD NAUD Nmf;vNAUD Nmfu]TED-NiISAZ IS ISS ImbEbJERqGJhGERd&BqvAEmf;vqvAmdI",
  "WAZ EOHi,4THO PEORTH PmdALGIZ EOLHXlSOWILO ShIGEL &BSOL SmkHORT-TWIG-SOL SmeCbZbTIWAZ TIR TYR ",
  "Tmd;vTYR TmeDbBERKANqGBEORC BJARKqGBmm;vBJARKqGBmiu]TED-Pi)m-PgEHWAZ EH Ek&XNAZ MqGMm&BMADR Mm",
  "g;vMADR MmfLAUKAZ LAGU LOGR Lmgu]TED-Li!LWAZeGdDAGAZ DAEG DmOTykqGE?WL OmdErMIORdCWEORTHgALCdE",
  "ALCfSTANe&BYRmc;vYRmbICELqLIC-YRmQbXi;.,.mg(T ,.mit^,.mfARLAUGn8bTVIMADUR =(BELGTH)w=(%lbSHcOO",
  "cF.NKS CASKwoOScIScEHcACbESC~Oo|TAGALOG %jr(Um;$]sPAMUDPOD_p%cRA|gHANUNOO %jr(Um;$PAMUDPODmjPH",
  "z.PP!I ;.,.mgvP,.~BpABUHID %jr(UmgpDTAGBANWA %i!|$3(c?D(3,2Br)^d>$(^ASAj>]zIbUmjpDKHMwj%lAby%",
  ",ENGOdCAby%,ENYOdu0TTHAeDOcTTHOeNNOdTAby%,ENOcBAcPy%,EMOcYOcROcLOcVOcSy%SOcr$$(QAjINDEPENDw0]y",
  "QAQbAc!?UaKbUaVeRYaYdLYaYdQEbAIcOO TYPE )dlAUmj]yINHERw0AQbAl;$AAc!?YaYcUaUbAcOEc^dIEcEbAEbIcO",
  "Ocr8NIKAHIThREAHMUKhYUUKpxAPINTUmbMUUSIKATOANl[HISAPhBqhOCgROBATfTOq5KHIATlKAKABAThAHSDAfSAMYO",
  "K SANNYr;VIRIAMgCOwYfBrZMASATkKyyBq&YOOSANkCAMNUC PII KUUHmdLEK TOOhBEYYALgPHNAEK MUANlKOOMUUT",
  "muHCY =%RIELmi;$AVAKRAHASA(,mTTHACANmbpKo_=%LEK ATTAK SONdMUOYePIIdBEIcUONeP.La-MUOYePIIdBEIcU",
  "ON~To_M)kOLzsBIRGAfELLIPSISitrthfxwjTODO =0zmmeSIBEn4B),ARY &1~B&XCHU tqmeNIRUGUgFREE ]3)w)e~B",
  "]y;emdFREE ]3)wxu|.uw>>pIrmOEcUEcv~(3q6dsFQAcGr)$(;1?DtGJAc^f^AxUKrqTSAdZr!AdZRAdLy&ZHIdtOdTOD",
  "O %^]y;&xCUbOEcUEcq6dsFQAcGr)?DtGJAcTSAd^d^A$1Gp0Hp0JIAdNIAdDZAiSIBE EbIaYcUEcUbq6d$3y%,2Sy&?D",
  "JAcxUGp0Hp0TSAdZAcRp0tGZHAi&XCHU Ib$1RAcxUZHAkCHpU[eu]Smfo|ALI GALI qm)4m]u)4lDAMARUgUBADAMAh",
  "!3UBADAMAmeBALUDAg?7BALUDAmAbIb$1(cCAcTTrrDDAdNNAd?D,YSSAdZy%AcAHlTODO ALI GALI TAcZHAmf&YGy&",
  "(cCAcJy&TTAdDDHAeTAcDy&SSAdCYAdZy%AmgALI GALI ylUbYAme&YBHAmhALI GALI DAGALGAme&YLHA~co^CANpqO",
  "YcAYbAYdWAYdPOYcAYcWOYeTAYdKAYcWAYeMAYdNOYcAYdLAYdSOYcAYcHOYcAYcWOYfYOYcAYdRAYdNWIdOJIBWAY NWI",
  "lNWIIeOJIBWAY NWIImNWOdOJIBWAY NWOlNWOOeOJIBWAY NWOOmRWv~!?,DAdOJIBWAY PbTbKbCbMbNbSaHkEAS?V W",
  "jWES?V WjxZ=J.;k.Iu]meRoIRWEk^FLOOcAr;THWEbAdTHWEcOOcAAeLHWEcOOfSrgSHWEcOOeHOOks^GWUdDENE GEEi",
  "GAAcWAlSrgJUUks^JWAlBEAVwjDENE LbRmbs^DwZpuS~9pBLIMBU VOWEL-s^%7mi%8$YYANd?C,0^ASy%;2r$GYANe[E",
  "k>]zAb!|v~AIcOOcAUcEbOm=s^fWA|BMp?nC$1(cqnTAc(3Pr)RAcLr=IGN MUKPHRwYjKEMPHRwYjSA-Ieo]LOOio[w$",
  ".CuzTAI LEnC$1XAc(cTSAd;2^d?A$(,YMAcxUVr$QAc$9T;je(3AbIbEEbHcUbOOcObUEcEbAUEcIc>>?,oGmipCNEW T",
  "AI LUEnCzKQA_5QA_4$1XAc(bi&D$1XAc(bhzKTSAd;2YA_5TSAd;2YA_4?ANA_5?ANA_4,YMA_5,YMA_4xUVAcLA_5xUV",
  "AcLA_4y%u0BA_5y%u0BA_4KVAdXVAi&DKVAdXVAhzKSUAi&DSUr=o]]z]y;rRTENERmdAAcIIcUaUcEbAEcO_HUEcAYbAY",
  "dUYcOYbAYdUEYdIYmb%kVbNGcNbMbKbDbBmc??-1b2lo]pKTyq uqONxF>pLLAEaVmjKHMwk PrZMASATkMUOY $lKOETj",
  "P.L KOETf-MUOY $lKOETmcDAP KOETf-MUOY $lKOETjP.L KOETmbTUTEYASATjMUOY .|ROCiP.L ROCe-MUOY .|RO",
  "CmbDAP ROCe-MUOY .|ROCiP.L ROC|gBUG!ISEnC$3(bbKAe,2BAcMAbPAd?DNAbRAdCAcJAc(,bCAe^h;2AbHA_c!|Eb",
  "ObAxE>>Pp[WAhwW;8mlTAI TyqnCzKKAby%XAi&DKAbXr!h(czKCAbHAi&DCAc;2tEh(,dRrUezKRrZku0&DRrZj.NAezK",
  "TAbHAi&DTAbHAh(3BAczK,YFA_5,2xUPHAhMAc&DYA_4YAhRAbUEdLAbUEd^AzKSy%;2r!hLLAdAb&DHAg!^v~OOcLAEdG",
  "RErTSAmdt%RAcLAjLA Tq7LAI|p;$&WKq7LAImft$(bj&DPA_4RrZ )w&DPAmiMAcBAcSAmf>;$SAKOT_iAb&WSAThAAcT",
  "p? AAh!?UEbUEdUaUcOaA sIhYcEbAEcOOcAIcTyq AIhOA pbh;$&WKq6i?[1b2gKHUwU?[3b4b5m.GHAAMh&WSAMhKHU",
  "EN-LUE KA.NmipJuBu]|%HO.Guyo_Tyq uyo]pLWIq6aWAAKjSAWANfKEOWeHOYdDOKMAIg.6;A.NAmj&WYAMOKjKAANaK",
  "UUhSATKAANaKUUkHq6eCAq6mhpJvOD t2mmIAE.XIS-R!Qc!Kivs[1u]kX-X sIjWIGGLY %(sJf)n&0sLvP)n&0sO%!=q",
  "sI~YSTR)k CEN[ELIZr1=qsI~2,PEN?WSES p4__,PEN?WSES pf,PEN?WSES sIf)[mh$%W sIh[9W sI~TEFT ,Up5$)",
  "|),Up8~B$,,UsI $)|),UsI ..f=aS pe($;$pc!3vPARCH ph,hpbdvP,hpamk[1pl$%!UbRbT~l<<<>BA%&SEnLULU ",
  ".9EMfCqLRAkCECEKfSURq6gBISAHk%9KqyIKqyUKqy.GREPrhcLA LwYrhdEKARAfAIKARAgOKqyKA^,AmGAa GORAh(cC",
  "Aa LACAhJAa JERAh(,d=;LATIKfMURDA MAHAP.NAmgDA MURDA ALPAP.NAjMAHAP.NAmgNA .LBATjTAa TAWAhDAa ",
  "MADUh(3PAa KAPALiBAa KEMBq6kMAc^g^ASA SAyCPAgr!j;$REREKANm]zTED[;gULUa Sq&iSUKUa ILUTj.GREPrhc",
  "LA LwYrhdTAL!La REPAeTED[;gREPA TED[;mgPEPETa TED[;mlADEG ADEGj%lAFnGiHOTnGkTZIRnGkEFnGiVEnGiZ",
  "ALnGjASYURAnGlRtEzuJ(,mh>pKPqidMADAgWINDUfCq&K PAMU(fAHjSIKIe,PERENmbPAMENwYi(YD)kdwYd[;dq6a S",
  "URq6k!LdAwYeE[;eA!LdNG GEDEjtkTEGEHfENDEPfKEMPULcLIgJEGOGANhKEMPU$nJEGOGANmdLzqJEGOGANmhBENDEf",
  "G)kmc.qHqM)nDUGcAGitdTUKcAKmj%EHqM)nPq6d[;jtdPLAKcUKl)nP!L~2Pqi Lqhq6lMADA Lqhq6ml>SUNDANESEnL",
  "PANYECEKfGLrbRfWISADmc%i!|AEcObEaUc$1QAcyC(cCAcJAcZr,?D(3,2xUVAcBr)^g^A;2Xr!jt!PAMI(fALh(,KRAe",
  "IKUm_iPq6HULUfYUKUeAELAwYhO%]gMEPETfNEULE[;mj;$PAMAAEHh]rlt!PASq6qGMAcWA|w$9SYAkuwAVAGRAHAi%8R",
  "EUdLEUdBHA_YKbMmmBrUK %i;(Amy%;(Hr;Mq5IL!MHr;BAcKARO BAh,2;(Pr;(3Mq5IL!MNr;^A;(^DPAKPAK WAjyC",
  ";(Gr;JAcu0RAc;(Rr;MAc;(MAmOU?YN TAlNOR?YN TAlSAbIMAL[;UN Sr;Mq5IL!MSr;^d;(Yr;(c$(;(Lr;(,dCAcND",
  "AdMBAdIbUi;$TOMPI_iEbPAKPAK Eiv~IbKARO IgObKARO OgUa F)w;(SA~Lt!NGcHmePq6OLATf)kONANko~=%BINDU",
  " NA METEKiPINARBORASkJUDULfPq6OLAT|%LEPtE %lAbLr&GAbLAd(dr,?Au0(3PAbLr&FAbLAdBAbLAdMAbLAd[4^gH",
  "AbLAdVAc;1^AAi=s^dRAmh]!Ib,DUaUcEmt!KbMbLbNbPbRbTb(]N-DOhKq6mh;$.Nd(!o[,;TA-ROLgNYwoTHYOOM TA-",
  "ROLmgCER-WAgTSz0CER-WAiKmguw>>pPTTrrDDAmfOL tOKI uw%8$(ATbGbNGcLcLp0AAKbJbMbWdLIcISbHbNYcRcLUc",
  "UCbDbNNcYcLEcEPbDDcNbRRdLOcOTTcBbVbHjMU TTUDDAGkGAAHLAA TTUDDAAGmeMU-GAAHLAA TTUDDAAGmhRELAAfP",
  "HAARKAAiAHADe,;MUCAADgvPMUCAAD~2uK=P;KVEk%]-LEGGv_DxFNq,OiWIDE EShTp? TEgHREE-LEGGv_TxFp? yzYA",
  "TiUNBLENDv_UK~2o|yEMTAVRULzoqreRAEdSANdTrMUNcPHARe$6ReGyyQrMSHINeCH!bANdJILdCILcHAReXANdJyyHAE",
  "cEbIEdWEcHARcOEdFIcYNcELIFI_3GANkprc>>w2yzLABIALnK~(SUNDANESE ,;BINDU SURYAfPq6%]hURNAMAhCAKRA",
  "fLEU SrU(blKA SrU(bkDA SrU(bkBA SrU(b~lo~VEDzu?.KAR;jNAi;jRAfPREN$6m;$NIHSHVASAjYAJURVEDzuMID",
  "%(SVq&TA~O?.YAJURVEDzuAGGRAVrXz^~Lz^mhKrZKA z^~lsysJYAJURVEDzuKrZKA z^ SCHROEu2~]vPSVq&Tr=[1SV",
  "q&Tr=KrZKA ANUDATTAmevC[j_rsJeRIGVEDzuKrOMIRI z^~irZRVAVEDzuz^mm_w]uSVq&TAhUDATTr=.6]uUDATTAml",
  "]uANUDATTAme.6]uANUDATTA|g]uUDAT===^meANUDAT===^|pqmqhARGOMU$6mBAzQGOMU$6mVAMAGOMU$6^~=^~LTIRY",
  "AKgHEXIxs %^qlmk%^qlmbRTHq7%^qlmiqmUBHrbTO MU$6mkRDHA]tm;AARDHA]t|g?.sypc;$$MlATIK.Lr;?..?kvP",
  ".?mk;$vPqmqhARGOMU$6~oo^$!%nAaE|8[9AE|2sA.QBiCbDbwrdE|3[9)nEgI|XJbKbLn;Mb.6NkOaPwUO|,;yOaPwUOf",
  "n)mk[9OE|2OU|8?_OksiOm_$Pb.6Rk[9RiTbU|3;yUbDIAE.XIZv_U_xM~L%nVbWbZbEZHmfVOICv_LARYNGEpuSPIRqhm",
  "mprmey4%nGAMMAf$rf,fdPSI~LuK%nEL~T(HAaEcBaAR.QBiDbEb.7GbHbIbJbK_Vb.6NkOaUcPbRbTbUbW_aAb[9Aip_",
  "_3AEjBbDbEb;3f)nEg[9)nxEGb[9IiKbMbwYdOaPwUOg?_OksiOmbPbTbUb;yUk[9MiVbA!bBETAey4GAMMAlDELTAfy4P",
  "HIjtO|gLATINn3IbRbUbV~LGREEKn3BETAeGAMMAfRHOdPHIdtO~T$%UEcr?&^uL&^xH&^&O&^(0&^,I&^.F&$?nmx9nA",
  "&$?n~T;T&^=.&^^x&^[9G|%(GuKEN|%$%!UjTycS[HKwrROUGH|=zr|_!c=pmePn)|PUn)|_]J=pmhr?,LuL,LxH,Lx_,L",
  "$P,L$n,L&O,L(0,L,I,L.F,L;T,LESyc,M]Y,L^7,L^x,LpU.0miLPHpU.0|gDnunA=^miv&.2)nv&.0|p.8v&.0~9;3nd",
  ".0|gzq.2)n(^.0|pESyc.0ml[y.2w[.0~!(I[9p_mC^~uDlwrd.8xGFbvGn=;5Gi[9HizrmOTAes%Ian=!~$n.1,Ls%LjM",
  "nw&O%|mk(1j.2s%NjsA.QOiPHIdSnvwld=.,LU sAePSILONhs%UjVnwViZ^~.1uDlEZHd?WTA|%tkvJyTplSNAKE sIkU",
  "SPENSI)0&4d&R-pjmyS-&Rm&R-ySmpj-&RmyS-pj-ySmfpj-yS-pjmf$%R sQBREVE-&Rm&R-BREVEmvPCIRCUMFLEX pb",
  "lOG)4K pb^!sJIS sIiUR p4hS p4i$%xk)nA pbkAEbObVcC CEDz;AjINSULqvDjwrdG_$G|3KbL_$LbM|3N_$NbR|3R",
  " ROTUNDAjSb%^SgZbp_fBaETAe;3fFbLnt&$?n|p(^%!=p~2Pbwld[y%!=p~2WbpUua(^ua[yu6~9]ApbbKAVYKA p5.,m",
  "fu_ $)mcWIDE !3spsQvA $)mbwP?%&4O[(!4 sRp^ sI|Vq~p4|RqMvbrA~_$$pU.[~WpU.[~MBnoBnnBnrBnqr?%,r?",
  "%)sw qN~qsw qN~jDnoDnnDnrDnquL%,uL%)uLs~uLs|uLt6uLt5v?qR~mv?qR~dv?qN~mv?qOv&t6v&t5v&?rv&?q~Pv&",
  "CEDz;AnABREVE~qv&CEDz;AnABREVE~jFnoFnnx_&Ux_&THnoHnnHnrHnqycucycubycs~ycs|ycsm~1ycsm~Pzq?rzq?q",
  "~Pzqu7qN~yzqu7qN~p$Ppn$PpmKnrKnq$P%,$P%)LnrLnqLnp~$Lnp~s$n%,$n%)$nt6$nt5&Opn&OpmMnoMnnMnrMnqN",
  "noNnnNnrNnq(0%,(0%)(0t6(0t4s(?p~k(^?p~9s(?oqQ_|(^?oqQmds(&SqR~n&SqR~cs(&SqN~n&SqO,Ipn,IpmPnoP",
  "nnRnoRnnRnrRnqRnp~$Rnp~s.F%,.F%)SnoSnnSnrSnq;TpjnB~y;TpjnB~p;Ts?nB~y;Ts?nB~p;TvBm~1;TvBm~PTnoT",
  "nnTnrTnq=.%,=.%)=.t6=.t4s.sI~k[yu7sI~9s,?r[y?osSs,t6[yt4s,?p~k[y?p~9s,&SqQ|G[y&SqQ_?]Y?v]Y?uV",
  "nrVnq],yX],yW],pn],pm],uc],ubWnoWnnWnrWnqXnoXnn^7uc^7ubYnoYnn^xt8^xt7ZnrZnq^x%,^x%(sJfyc%(sJf",
  "=.ua],.=pc^8.=pcpU.lmk%^SnkiIAGONpu=pmdzK=p~d;jRP S|3DELTA|DAnrAnqpUz3pUz2pXpopXpj~tyYpXyS~tz4",
  "pXz1~.pX?wpX?n~tvDpXvA~)pVqN~kpVqN~ayS~kpVqR~az1~$pWz1~spW?n~kpW?n~avA~ypWvA~pEnrEnqv&z3v&z2v&",
  "?vv&?uv)pov)pj~uyYv)yS~uz4v)z1~.v)?wv)?n~uvDv)vA~)zqz3zqz2InrInqOnrOnq(^z3(^z2(_po(_pj~vyY(_yS",
  "~vz4(_z1~.(_?w(_?n~vvD(_vA~(s)pj~gpj~4yS~gyS~4z1~y(^zdnAz1~os)?n~g?n~4vA~w(^zdnAvAm|qUnrUnq[y",
  "z3[yz2[!pj~hpj~5yS~hyS~5z1~y[!z1~p[!?n~h?n~5vA~w[!vAm|q^8yX^8yWYnrYnq^8z3^8z2^8?v^8?u&|LL~N&|L",
  "L|=&|V~G&|V|&^8LOOP|z^8LOOP~Ly4=Pp|,,r.uS)~~.p|,,r.uS)~~[w4,,r.uSOXIA~r>>s&w4,,r.uSOXIA~!pNwq",
  ",,r.uS)~m~Pwq,,r.uS)~m~1!c,,r.uS)~~)!c,,r.uS)~~=)Z,,r.uSOXIA~r>>s&)Z,,r.uSOXIA~!pN]J,,r.uS)~~?",
  ">s&]JDASIAa>nAVq&Af>OXIAe>,4ISPOMENIm~k)X,,r.uS)~~.)X,,r.uS)~~[p|]4mdw4]4me==]4mb!c]4mc)Z]4mf",
  "]J]4mf)X]4md>>p|,)uZ]1uY)|uU,(^u~ouV^v~pp|,&,$uW]ZuX,&)^uT,(,%uV,$~$wq,)uZ]1uY)|uU,(^u~ouV^v~j",
  "wq,&,$uW]ZuX,&)^uT,(,%uV,$~w)X,)uZ]1uY)|uU,(^u~ouV^v~p)X,&,$uW]ZuX,&)^uT,(,%uV,$~$p|])]0)_~Cp|",
  "])]5,%KORONISh,zSGEyPMENImbSz.eERISPOMENIluk|nwq]0)_|&w4]4me==]5,$mc,&]5,4ISPOMENI|Y!c])ulmg>>",
  ",5ukm~d!c])]4~B>uS]5,4ISPOMENI|Y]J])ul~ORH(^,,r=]J,5ukm~p]J])]4mfRH(^DASIA~BulmgVq&AfpN)X]0)_",
  "~C)Z]4mdEGpU]5,%OXIAeDASIAl>wUQUADgM QUADgNn0hMn0i?e,4-EMn0mgxu-,4-EMn0mf;|-,4-EMn0meFIGUREn0m",
  ",.n0mfTHINn0kyjn0kZERO WIDTHn0fNON-$Ok$Omf%I&4g.u&4gzmgNON-BREA$bzmmhFIGURE uQlwUuQgM uQhz7_z",
  "]i&E_,;..E|y;..E|%;.&C-9 .EmiHIGHoR~i$=.E|p.j.E|%vP&C-9 .EmiHIGHoR~cAGGERfO[(DAGGERmbstg[Wstmf",
  ")5u^LEAu2mc[eu^LEAu2mcz8SmgYPHENr1POINTmf%(;g,Rmh%IEMBEDD!Ql.uEMBEDD!QlPOP DIREC?&xsATT!L|p%I",
  ");RIDEmk.u);RIDEmkNq,(jmjPwjMz;EnR?OnYRIMEfvPPRIME_nPRIME_mPRIMEfvPPRIME_nPRIMEmjs=ETf;.%Fqf~2",
  ".rqf~!REFERENCE &Z_zwzml!WROBq6l)]iUNu2TIEitFTIEmARwoINSER?%POINTmjA=jISMizm stmbx(=Gmc%BQUz;",
  "~L.mQUz;m|K.BmiQUES?%wz|gEXC$pr1.B|gTIRONIqJETme.6PILCROWnTjs0%Jstme.vstml&DrR_m;cthmgCLOSE UP",
  "_8rRS ALIGNv_]9LY~TtjMERCIpu(DmjSW[; uQk!3UNu2TIEmfF&H,;&4l?7vEmj,^PRIMxGxvvEmh!;vEm_8vEmhxvu^",
  "&4bvJt]m[Hthi]axw|E&5SPACE|g^3$OlFUNC?%APPLICr0miINVISIBLE TIMESf;ejPLUSmc>%IISOLrVmj.uISOLrVm",
  "jFIRST STR)k ISOLrVmiPOP DIREC?&ISOLrVmlINHIBIT SYMMETRzuSWAPP!L|pACTIVrWSYMMETRzuSWAPP!L|%INH",
  "IBIT qwxsnHP!L|%ACTIVrWqwxsnHP!L|.NA?&uq;jPESmiO(Cpuuq;jPESmi=xZEROe$%Imi>>xud!.e=Ce,i(CUSfwc",
  "$~$%N~LB;5^z,i(CUSfwc$||%>LATINn3AbEbObXb;3fHbK_VbPbSbT~Lo[EURO-uHCYnTgthnQRUZEIROnUFRENCH F.N",
  "CnXLIRAnQMz;nQNAIRAnRPESETAnSRUPEEnRWONnPNEW ;mQEL ;&D)knQEUROnQKIPnPTUGRIKnSDRACHMAnTGERMqGPE",
  "NNYnXPESOnQGUA.NInTAU=lLnTHRYVNIAnTCEDInQLIVRE TOURNOISnThSPESMILOnUTwYEnR!GqGRUPEEnX[8K!gLIRA",
  "nXNORDzu&ZnW&XATnRR[(;!kLq&nQBITCOINnTSOMnPpEpJ$,y$ p4|Fy$ pbh%^]h)[|p;s]h)[|%qjq,pgtcq.|Vq._[",
  "q.mdNG )[mtc.=)[mkqj.=)[|p?amexxmdENtgtUg=8gumhtVr^|uq.mkENtgSCREENgKEYCAPg]K ,m[I~2.4 )[mlv5 ",
  ")[~LANNUITYn9[1UNu2u]mdWIDE sppc%L)[mk)k vP=2)[|%.&vx%Qvwj q,sI_[q,sJfrR pfpGACCOUNT OFjDDRwm",
  "v_TO ?XSUBJECTmmv9CmkEGREE CELSIUSmctA %&n8fARE OFfDA UNAiEULwjtvSTqh_&CRUPLEhDEGREE FAHRENHEI",
  "Tmf;5=JGhs%H_=Hmkv9HmlPLANCK tvSTqh^;[ePI|%;6I_=Imk;6L_aLmcL B sAn9v9NmlNUMEROnSS), RECORu(COP",
  "Y..CRIPT s%Pmev9PbQml;6R_=Rmkv9RmlP.XCRIP?%TAKEmf.XPONSEiSERVzx&4?LnURADE &0;&]8SICLEiv9ZmlOUN",
  "CEnQHMnP!3OHMnXsZ-%8s%Zmk[9y4=PIOTA~LKELVINnSq6STROMnU;6B_=CmkESTIMrVDnb;5=JEhs%EbFme[9s%Fme;6",
  "M_aOmcpxFn7BETn5kGIMELn8DpxTn8INxsr1SOURCEmg;As%QmfFACSIMILEnVv8=JPIcGAMMAls%GAMMAfPIkN-ARY SU",
  "MMr0mm_3;0GbL|%.6;0Lmm_3;0Y|%v8!xs%D_aDbEbIbJ|.,z,4TY %&_xqEme,4nPAKTIESELSKAB_o=JFmc=&SAMq&T",
  "qGSOURCE|%VULGqvx)SwvTHhNINTHfTwZHezQDj[oSk)5FIFTH_bFIFTHSjzeFIFTHSmxvFIFTHSl)5;|THjxd;|THSl)5",
  "Ez(Hk?7Ez(HSmbxdEz(HSmSwwEz(HS~Bx(NUMERAT)w)4mk.~)i?TgxXxhm)5?4|p=J.~)i?TgxXxhm)5?4~T.~)5?4 C ",
  "Dmexd?5b?O_m)5zh~2$%.6C~B.~;~LrWxsmbFIFTY v[LY xsk?6)5zi~2VULGqvx(ZERO TzQDS|%[9uq[r|B%O]Lq)mb",
  ".$vs%ArC[_q)mb(pq)kv^rC=4q)k^ErC%Kn)|%.wn)|^]^q)|S]^rE%J[nq)|![nrH[nrIvo[nq)|p%N=^|m=^|vq?mm]L",
  "q?mk.z|gvoq?mm[_q^BASEml%Jq_|mzZ|p%NLOOP|mLOOP|u]^q)kq)n)|?^!rF]NTIP %UjvrTIP %Ul.!t;vxvrt;%Vm",
  "bqj?^;ctW~2tc?^;ctVrL(pq,TO %^sA|.%L?(nD.x?(~|qj)q~Otc)q|%%Q]KShvwmb]O.eWARDSk%Vl.&]KShvxvt.eW",
  "ARDSk%Vmb.wnD%K~i]M%Svp~!%KnD.vrI,JSml]L,JSmj.v,JSmmvo,JSml%Jy$nD.vy$m~Fy$nD%Jy$~x%JvQn)~L .f",
  "vQn)~9.vvQn)~9%JvT]LvQ|SvUvovT%AvU[_vQmi(pvQmfv^vU=4vQmf^EvU%J[1rF.v[1rG%JSQUIGGLE rHSQUIGGLE ",
  "q)|g]Nv1~Tvrv1~2%JuRrF]LuRq)|SuRrGvouRrF%L?(mk.x?(ml%J^L|Z^KrD.v^KrFvo^L|Z^Kq?i)0PEDESTALan$mc",
  "]c~9vQa )0PEDESTALmm_%^L FROM Wp?~T(pq,TO t.|p=4q,TO t.|p[_^KrD.fq^=L~Bvq%S]Lq)~!?7.wSml%N]l~c",
  ".!]l~i%Aq^]l~Y][q^v5~&v5~(%Aq^v5~r][)moKrJ)moKrK%A)moKrKF)wp?htjPLE&!k,X?YE EX!wSgu=EX!wmiwTSE",
  "TjINCRE&!jNABLAfwQk(qqGwQm_2wQmet(MEMBERmgu?MEMBER|p=Jt(MEMBERmmwW,zOFmN-ARY ,!hCO,!jSUMMr0md",
  "(Df-OR-PLUSnTgu^PLUShIVISIONnZ_&wo(CUSjrR )sf.=)tst )sd=9ROOTlCUBE ROOTjx&ROOTl,zPOR?&TOmd!Ki",
  ".hlq8f&7q8_&PHERzwq8mdDIVIDESgOES (qDIVIDxG,S TOl(q,S TOmd%[k!1f!V_7!Vmd[1!Vmdt,meSURxI!VmeVOL",
  "UME !Vmdtc!Vit,|pqjt,~L?YExpEjBECAUSEhRATIOf,zPOR?$ku^(CUSjEXCwmgGEOMETRzu,zPOR?$miHOMO?WTICk",
  "?smc.6?nmc!8S!I WAVEjWRErY ,!mc(q?nj(CUS ?nlASYMPTOTICp]ml(qASYMPTOTICp]|%quw7iBUT (qACTUp]~oN",
  "EI?Y quN)wACTUp]~%p^md(rmhALMOST w5 )z[1?nmp? w7mwimbGEOMET.9p?Y wi|%DIFFERENCE BETWEENmgAP,zA",
  "tHS ?XLIMITmiGEOMET.9p]mkquw7 )w?Xz=OF~lz=)C)wquw7~2th w5Smw5S thm.=z?w7lw7mbCOR.XPONDS TOmcES",
  "TIMrVSiQUIq6ULqvTOmc=i w5SlDEL=;w7mcw7 BY DEFINI?$mk&7BYlQUES?$v_w7mh(smzyTOm(qzyTOmeST.9TLY ",
  "wimk%2)ymjy0)z%1nDw7mlyZnDw7|p%2BUT (s|rBUT (tMUCH %6mfBETWEENh(qwimb%6mdEI?Y %2N)ymky0N)zj%2",
  ")!|r)!~BNEI?Y %2N)!|%y0N)!~l%2)wyZ|gy0)w%1|gNEI?Y %2N)wyZ|rN)w%1~2,wSiPRECEDES )ymiSUCCEEDS )y",
  "miPRECEDES )!|gSUCCEEDS )!|gu=PRECEDEhSUCCEEDme=uOFh,6OFl(qA =uOFh,6OFmf=u)Nmh,4;hmlNEI?Y A =u",
  ")CN)ymi,6)CN)zk=uOxH(s|g,6OxH(tMULTISETa (UmcUNIONmc=9z=OFi)%OFlz=)Nmi)%)NmlCAPcUPktZPLUSe(CUS",
  "fTIMESfu.nZmbOT )s.=)trR )sfw5SguQm=dPLUSe(CUSfTIMESfu^)si.f=?_e=?jvk[?=?hASSER?$jMODELSgTRUEe",
  "xpCESg[3.o~9v4vP.o~rES (q,zVxF(qTRUEiu=xpCxFNEGrXv4vP.o~_PRECEDES [,.WmlSUCCEEDS [,.Wml(lOFmg",
  "t(NORMpuSUBGROUP|%(l)N~Lt((l)y~o)%OFlz=OFiMULTIMAPiHERMITzstvJUGrWMA[HX|p!WCALrVlXORdNqLdORd.f",
  "qgARCmc[ImcN-ARY %[k!1lun)sdOT )s=i )tu. TIMESmcBOWTIEg$,NORMpuFACT)w;cu)m|kNORMpuFACT)w;cu)m",
  "|t;cu)|7;cu)mlE]8Sv_?ow5SmjuE%?ORcqL__=te,4SETi!1mPITCHxpKjw5nA,S TOmj%1nimgyZnimj]8Y MUCH %6m",
  "k%2w7 )wyZ~2y0w7 )w%1~2w8m,wSmiu=PRECEDE )xmeSUCCEv_)x|g(q=9z=)Nmi)%)N~2=9z=)C)w(smm)%)C)w(s~2",
  "%2su~Oy0su~2PRECEDES su~LSUCCEEDS su~L(q(lOFmku?NORMpuSUBGROUP~9(q(l)N~2u?(l)x~(]aELLIPSISmfMI",
  "D%(z8S|%[?.fueELLIPSIS|pvb.fueELLIPSIS|.wR%^zamk]e~T=JwR]e~lwQnm)?ml=JwR)?~BwR[._8zaS~lt)%^zam",
  "k]e~L=Jt)]e~ct))?m_at))?|%^wBAG MEMBERSHIP|gDIAMETERnUwPCTRzuq)mcHOUSEf[^mvbrB,zJECT!.jERSPECT",
  "!.l]_%&j$,CEIL!Q.fCEIL!L_tFLOOR_hFLOORlsjCROP_eCROPme?^.fCROP_eCROP_u(umf=9&MmcARCdSEG&!fC?~g",
  "?L RECORu2mgPOSI?%!HmgVIEWDrUn1mdPLACE )C!WESTnTk[9(q;&WATCHfHOURyIj?^$,t.l.ft.mesh$,t.l.ft.mh",
  "?_!Vmfsi!VmiFROWNfSMILEf[^ sV[ez7S~rOP?%KEYkERASE TO ?X.emgX z?A .P BOXmi$5i%Fqa|%.rqa|.ERASE ",
  "TO ?X$)mfBENZENE R!QCYLIND.9ITYmp? AR),-,zFILEmgSYMMETRYiTOTpuRUNOUTmDIMENSI)0ORIGINmetvzwTA,4",
  "mbSLOPEfCOUNTERBOREeSINKlAPL FUNC?&=%I-BEAMgSQU!gQUADl,?w5fDIVIDEeAMONDhJOTdtUltVSTILEfJOTk=G ",
  "sAjr^ sAmb,?=Gfr^j%6mf%JVANE_%VANxG,?%PmjtVr^mevj [.mfEL=;STILEl,?vbs=ETjELTAkvj JOTmb]LVANEm",
  ",?]Lq)mg]A)?mdDEL STILEj,?[?s=ETiDELi]AJOTlvoVANxF,?vpmgOTE [.mcDEL=;[.mbIAMOND [.meJOT [.mtV",
  "[.md[?;rE JOTlQUOTE QUADktV=il,?thk]Au6mfDEL u6mb=i u6mcJOT u6mbtVuavb;rE STILE_,;rE STILxG?o",
  "u6mdy0u6mktm sAjDEL ?njZILDEfSTILE ?nkEMIth [.mg,?(qw5jQUES?$mbvbs=wo?nme[?s=wo?nmcIOTAeRHOd)W",
  "fp_ [.mcw3 [.meIO=;[.mb)W [.mcp_|%(qtJ&4c.fqgvo^!q)~o;rULDE.Q)omhBELLn7]h^X&%~BINSER?$nbC)lINU",
  "OUS UNu2%&n5|%DISC)lINUOUS UNu2%&n5~LEMPHASIS =(tjPOSI?$n5|H=btA ]a%&~lwZwkmAL?VAT!;KEY =)HELM",
  "n7tZz7ndNOTCH|g[JvamjBROKwUtYNORTH^Eq)~2UNDOn7(JSTABLEn8fHY=jESISn8f)m-CIRCUIT-OUTPUT H-TYPEn8",
  "bL-TYPEn5~YPASS!.-PULL-va-OUTPUTn8gUP-OUTPUTn5~BDIRECT uHT =%xs TWO~LSOFTWARE-FUNuCn8mAPL FUNC",
  "?&=%QUAD|pDECIMpu;fKEYn5|.PREVIOUS PAGxENEXT PAGEjPRINT SCREENn8hCLEqvSCREENn5|L,U]Fw)zZ|),U]F",
  "w)zZ|]=a ]Dt.mw)t.~T.en2 ]Dt.mw)t.m|VuG]F&$,b&HzZ~BuGEXTENSION|7uG]F&$,b&HzZ~L!V EXTENSIONmgz6",
  "%(EXTENSION|g]G)w&LuG;8m~E)w&IuG;8~?SUMMr1TOPdsgme?^=amgsgn2^;?^=a~,RADzw=%sg|V]aBOX %&m_h]aBO",
  "X %&mlz6SCqG%&-1b3b7b9mkDwZ!wRY =%%%?^.ejsh.eme^Xt1ivetU~O[?qVtU~B]9nd[Imkve[I~Y[?qV[I~O]bWAVE",
  "mfveWAVE~B[?qVWAVE|%vdmh[]mf]b?^$)ish$)~?=9xolRE[8Nn8bEJECTn8]hEXTENSIONmlMETRzwBREVEf%]nD;rRT",
  "md;s)=%]md%]nD[e;rRTSm_8;rRTSnD%]jJO!IDmeRISEMEgE[ESEMEjPwZASEMEmgv] GR),mFUSEe?^,Tmdsh,Tmg?^",
  "uFmfshuFmi?^[A|psh[A~K[EPEZIUMmdBENZENE .;ndt1m=mNwmmFLATNwmiAC uHTkwPCTRzw!0lDECIMpuEXPONwZn8",
  "ls7v2~L%Fv2~B]Bv2|%vlv2~B.rv2nd]c~]%Fv2nd]c~?.snt]g~!ALARM tbl=kWATCHjTIMwjtblHOURyIndF&C!MSqL",
  "m_(&a%Gmk.sml]Cmivm~9vP]ghs9F)w=kmdtVF)wRECORDmlPOWwkgON-OFFn7n6SLEEPn8gOBSERVwjw?n8h=&NULLe=i",
  "=,y(!PTEXTmbwWTEXTd.NSMISSIONmfQUIRYhACKNOWLEDGElBELLdACKSPACEjz6TABULr0mj%(FEEDj]aTABULr0mhxs",
  " FEEDjs=RIAGE RE[8NmdSHIFT OUTdINiDA=;LINK ESCAPxGEVzxC)lROL )fmhNEGAT!;ACKNOWLEDGEmiSYNCHRONO",
  "US IDLEmewWT.NSMISSI)0BLOCK|gCqKLgwWMEDIUMmbSUBSTITUTEkESCAPEgFILE ;gGRO[?;emdRECORD ;emeUNIT ",
  ";gSPACEfDwPTEmfBLANKn8)oi=&NEW%&hDwPTE xs TWOmdSUBSTITUTE xs TWO~L<pAOCR zZeCyjfxpKe!3xpKmbBEL",
  "T BUCKLEkOW TIEg.NCH BANK IDwZIFICr0|pAMOUN=,tHCKmduQeCUSTOMwjACCOUNT NUMBERmlvPr^mi<o^tZus?T",
  "_1?Jmj,Wus?T_1?J|%uq)5x?mb[ex?mzex]xvx?mb!;x?mc;~x?mwwx]wEx](ix?mi($?Nx?mbELwwx?meTWELVE x]zQ",
  "?Ixu?HmfIF?Hmf;|?Hmewv?HmhEIGH?IN!I?ITWwZY x?ml,W$%rk~2tZ$$rkme=Prkmiuumg(4($ELwvgTWELVE_1?J~L",
  "vPtZut|g(4uu|%BOX DRAW!LS %sz5mey;z5me%s]9mcy;]9mc%s[2z5|[[2zc%s[2]9|s[2]9|p%s,|z5~Q,|z5~O%s,|",
  "]9~D,|]9~B%svc.emivb%xmjy^|svc.emi%svfmhvb%vmiy?|gy;vfmh%s[[.emg[?%xmjy^mmy;[[.emg%s[[$)mf[?%v",
  "miy?mly;[[$)mf%%..]a%x~L[?y]vh~Bvby][?%r~B]ay^~Lvb%w[|~B[?%wvg~D]b..%%$)ml]a%v~B[?y=|.vby[|.]a",
  "y?~Bvb%u[||.[?%uvg|[]b$)ml%svdmmwCvh~O.fy=~Ovb%t|sqU~O.f%uvgm|L%wvg~Qvd|g%s[]mkwC[?%r~Ey[~B[?",
  "%t|sqU~E%u[|~B$,%w[|~D[]ml%%zcwC]a%rm|7y;qW]a%r~9]a%t~9[|nAvbz6%r~2vgnA[?z6%r~2]ay;qU~9$,[?y]",
  "vh~7[?y=~6vby][?%r~7vby[~2vhnA[?z6HEAVY~2[?%rnAvbz6HEAVY~7%u]aHEAVY~9$,%w]aHEAVY~9y;]bz5~B%svW",
  "z5|[vWzc%svW]9|svW]9m_zz5k]9mbWN ;.q2|p[(vc.emhWN ;.qX|g[(vfmi[?;.q2m_z[[.emh[?;.qX|j[[$)mg]k",
  "q2~Tv3..b]kqX~Ov3$)mkWN ;.qT~O[(vd|p[?;.qTm|K[]mm]kqT~iv3z5~L%sARC vc.,mb[[%Wmeue]ITO &H$)mh%C",
  "&K|gt]mc$)eUPc.efvaky;$)eUPc.efvak%s$.y;.emi[[y;vamly;$.%s.emi[[%sva~c]Dynme&H)6m.ABLOCK_~ynk",
  "xewK|gFULL BLOCK_eSwwwKmh?7,~S BLOCKmixdwKmgynk?7wKmh)cmbEz(H BLOCKmj.fynme%rnHDEl&cmDARKnHDEk",
  "]D)7.f)7,[ &H%Wl]D$)a qY$.&Kmi.el]IqY%W~c.ea qY$)^&&K~|sa^R^~;LSmit&=T~!=bz6xYmd]axYmbORTHOGON",
  "put]HATCH xY|p]D%C&LxYmm.fTO &IxY~Luet]HATCH xYm|a=T|H=T|C.P_;.P_(]a.Pmm^K]a.P|a,SOyP|O,SOyP|I",
  "]C|$]C|ps0]B=U~T^K]B=U~Ts0.s~K.s~Bs7=Um|9.r=U~9s7PO!W~A.rPO!W|;vm~Avm|;vl=U~2^Kvl=U~3%G~A%G|;",
  "%F=U~2^K%F=U~3%FPO!Wm_;%FPO!Wm_(ummb^Kuma t&=M~(FISHw?h&Mh^PvJt1btY]axY|gBULLSw?hLACK t1tY$]&H",
  "ymme]Dym_h,[ sZ|pp? BUT ]G,[ sZ~,$?s3mk.ks3ml!2stg^Pi]Dyp^O~O&Hyp^O~O]G,]|y,]~Y&L,]m_,,]~Xyomf",
  "&Hyo_]&H.nmc$,[Imh]G[Imb.n|$stm=b$]]Guf~L&Lufmm|O=b]aBISEC?!%&~9]Cni~9]Cn%~!$w^K=b]G,[|M,[mb.f",
  ",[mi]I,[~TtY]G,[|M,[mb.f,[mi]I,[~l]G[Imb.nmi&I[I|O&a=8|I&a=8|O&a=T|h&a=T|g&H.nmis0SU(0RAYSmhCL",
  "OUDf[)iSNOW&XhtjETfsbk^Sk%rN!LjTHUNu2S?~MmSUNdASCENu(NODxFDESCENu(NODxGtvJUNuClOPPOSI?$ks0?L_;",
  "?Lmdr_OT BOX^~tHCKfXmf;VTIREh[)nd.H DROPSmmHOT BE]8AGEm^K;rGI ,bfs0;rGI ,bfSyqROCKi.6;AFLORpu",
  "y, st~cs5,p|$$,,mz_mh[~.f,mz_mivi|gSKULLnAt]B)4SmiCAU?$nTRADIOACT!.nWBIOHAZARDnVCADUCEUSiANKHe",
  "ORTHODOX t]mctO RHOgROSS )CLOR.HEiJERUSpxMmg=inAt[mfFARSIn8ADInHKTIkyqMERnASICKLEmfPEACEn8Yz?Y",
  "q6i[HyQHEAVENgLAKEeFIREeTHUNu2hWINDdrVRf(Niv]mfWHEEL )CDHARMr;ITE FROWN!O=ZxNgs0=ZxNg^KSU(0RAY",
  "Smhx7MOONmg$zMOONmfMERCURYhFEMpxnSv]fMpxnQJUPITERhSA[8NgU.NUSgNEPTUNEhPLUTOfq&ESfTAURUSgGE(CIg",
  "CqKRgLEOdVIRGOfLIBRAfSCORPIUShAGITTq&USlCAP.9ORNjAQUq&USiPISCESg^N$emes2$ekSPADE SUITme^Ky, SU",
  "ITkunSUIT|CCLUB SUIT_;SPADE SUITmes0y, SUITkunSUIT|HCLUB SUITmdHOT SP.;Sl.A(xmwJlBEAMv_wJSm;|T",
  "EwZH (xSmkMUSzuFLATnQNA[8ALnT;jRPnW^ESYRIAC uAv^SYRIAC uAUNI]8SpuRECYCL!Ln5|pRECYCL!M=&TYPE-1 ",
  ",g2 ,g3 ,g4 ,g5 ,g6 ,g7 PLrQICSmdGENERzuMrVRIALS~ls0UNI]8SpuRECYCL!Ln5~TRECYCLv_PA,4nc,PTIp?Y-",
  "RECYCLv_PAPwk~LER&Xw0PA,4nYWHEELCyjn8fDIE FACEoBk^Onj.e_bvIcs0tY^Ku^.emd[e^KvIi(JyQYq6dINmeDI",
  "yQGREA?UYq6mLwmwjYINcq6lGREA?UYINmk^KFLAGks0FLAGkyqMERnAPICKmdANtPRgt_SWORDS_&TAFF )CAESCULAPI",
  "USmhCpxSgpxMBIChF&CERgGv[eSTAFF )CHERMESmdATOMn7FLEUR-DE-LISm).^Smh?7%&S tv]8G!M.,|%WARN!LnTzK",
  "VOLTAGEnXvOD FEMpxnSMpxnX!WLOCKv_FEMpxnAMpxnK~TMpxnAFEMpx ;&^X=pnKeqMMpxnAFEMpxnK~x]aMpxn)nK~L",
  "z6Mpxn)nK~T&a^Ps3m=J^PmARRIAGE =(DIVORCEn9UNMARRIv_,PTNERSHIPn5|.COFFINgFUNERpuURNlNEUTERgCE.X",
  "fPp[SgJUNOeVESTAfCzQONgs0MO)0Lz.THmfSEXTILEfMISEXTILElQUINCUNXiSESQUIQUADRATxEOCCwjr_lBASEr_i",
  "=dKEYl^KDRAUGHTS &XdK!L|IDRAUGHTS &XdK!QhSNOWMqG^YSNOWmhUN BEHIND CLOUDme.Hes0SNOW&XmbTH[,CLOU",
  "DnA.HmjURNv_^K;rGI ,bfs0;rGI ,bm^KunINn1mlt~LANESmcDISABLv_s=mOPHIUCHUSjPICKeCqvSLID!LlHELME=.",
  "^Kt]|6t~LANESmjHprSgNO wZRYiqA)4oY~3TWOoYm|HTWOoY~Ls5LANE MERGEmj^K$,LANE MERGEmjDR!;S&D;&y;^K",
  "vm~6tdwZRYmf=cnFmdxRz?^O z[mm|aTRUCKl.Y.9?G$,wZRY-1b2mlrQRONOMzw=&U.NUS~Ly;tY=r[g~%PwZAyPj.qyv",
  "v_!WLACv_PwZAyP~Y%Eyvv_!WLACv_PwZAyP~T!3PwZAyP|Ct^)0SHIELDmjSHINTO SHRINxECHURCHfrQLEgHIS?~zuS",
  "ITxEGEqv^YHUBh yvLESmfMAP =&%rHOUSEmmOUNTpri[) )0GR),mgFOUNTprhLAG z?HOLElERRYfSAILBOAThQUARE ",
  "xvt.SmgKIERfzxSKrVj,8ndr_meTwZe$BBANKn8iy(S?.ySYARDn5|pFUEL PUMPjC[?)0sah^KFLAx_z6&$s0S[HPEm~3",
  "SAFETY ;4Smj]DBLADE ;4Smis0;4Smc&HBLADE ;4Smi^K;4Siy;tJ&4k?L LOCr0nTkAPE DR!.kptEiw1i.IF!weyvl",
  "VIC?~Y yvmWRI?!yvm&LPENCILmgPENCILg]IPENCIL|HNIBjs0NIBjtJ&2y;tJ&4e(U Xmey;(U Xmkr_OT Xiy;r_OT ",
  "Xmc).y5miy;y4uA)puAy;)pt]ml$!t]l;k^K$!t]|p).$!t]miMALTESE t]mb=i )CDAVIDmbxv?Fmmr||[xvr|~2xvCL",
  "UB-SPOKv_rR|hx!=i|9x!=imlS,PKLEShTRwm ).^S|ptZ^Smg)psbmks0tA ^Sml).sbmhy;).sb|g,emb;k^Smhy;rRm",
  "c)prRmiwHmd,lk,e|%=AmkwFRECTI%.sb~cy;wFRECTI%.sb~![c|g;|TEwU,krRmm?Fmm)p?F~cy;?F~L;~PETp?v_sZ",
  "nA^KFLORETTEm|hFLORETTxF^KFLORETTxFwEPETp?v_).s0FLORETTE~ltZ)pwF=im|s?EPINWHEEL rR~oSNOWFLAKEj",
  "Tz( [HFOLIrWSNOWFLAKE|stHVR)0SNOWFLAKEmlS,PKLEhy;S,PKLxEr|mlwE?E,zPELLwjrRm|[wE?E,zPELLwjrR~;",
  "t^&2;lmj(5t^&Z|%&LDROP-;k^R~l]IDROP-;k^R~l&L;k^R~Y]I;k^R~Ys0.B )&~A.B )&mkw!m|Iun(CUS ^KX|%y;",
  "wzn5~B%s]c|E]ghy;]g;.[9totovP[9toto&D;.tovPtokuJSTEM ,QyRnL)&~9y;w!|gy, w!m|Iy.f;Ay;s0y, st~TF",
  "LORpuy.;AFLORpuy, st|%&a$,,V|k,V|pxk$,,V|k,V~c%Fqb~eqbm~V%Fqf )&~%.rqf )&~(%Fqb~eqb~%%s$,[A )&",
  "~c.f[A )&~%&a$,uG)&|)uG)&~9D!LBrT(4ut|%tZ;Yut~B(4;Yut~;y;WIDEoK.vrK,i(Dku.nU=5(mrFDRAF?!,j.w~Q",
  "R),-TIPPv_.%[V~V[V~luR[V~oy;uR[V~,s8mk?eD TOPoOq|~TsgoOq|~%s8y(|ss0uJvn;O.vrL]K;O.w~?SQUrTs8|[",
  "tvCAVE-,ks8~(.q;jDv_^K.%%E;jDv_^Q~2r[-TIL?G;k^Q~%FR)l-TIL?G;k^Qm~V&H.t~%]D.t~^(v&H.t~|uELOOPk",
  "(v]D.t~|tZy;^Q~cWHITE-xVv|~TsZ-xVv_=5(n~VsZ-xVv_=5(n~lTv[DROP-sABv|~VTv[DROP-;jNKv|~oWEDGE-=^",
  "v|~DWEDGE-=^v_.%)m-)..vrLvPuELOOPmf?7DIMENSIONpuq8|9[JC)lpr!M=J^K[I~;,4PENDICULARmb)n=te,4SET",
  "_tSoTBAG DELIMITER|)SoTBAG DELIMITER|.ORnsmg.4 PRECEu(=t~T=! PRECEu(=1|p]fzbl&5RIS!Mud|.%^u.mb",
  "&5xQud~B=d%[|HuotAD u]~LqLnimwQ )m!M]KS|p&Lt.ni|%]Gt.ni|tOU?UJOINmd.fOU?UJOINmeFULL OU?UJOINmd",
  "$v[?=?hvjmcEFTnA.j[8NSTILEme=?mcMULTIMAPm)k .f=?_e=?mc[?=?nepg&M DIVIDv_BY z6RULE~2^KtvCAVE-SI",
  "Dv_um^~%J?l_%?l~!=b%J?l_%?l~Y&5%D=a|l=a|tqcvPqd|p%D[C.p[A~6xk,T|yxk,T~r]L,^rGvo,_qjGAPPv_tW~Y",
  "tcGAPPv_tW~Eq^tZPLUS~B%^%O.$%Aq)m][vT.vvU$,.jrD][q?mm.z|g%JvR~O.vvRmjSQUIGGLE rLBRAz;E PAT?V B",
  "LANKfu]S-om12c3b13c23c123d4b14c24c124d34c134d234d1234e5b15c25c125d35c135d235d1235e45c145d245d1",
  "245e345d1345e2345e12345f6b16c26c126d36c136d236d1236e46c146d246d1246e346d1346e2346e12346f56c156",
  "d256d1256e356d1356e2356e12356f456d1456e2456e12456fote1otf2otf12otg7b17c27c127d37c137d237d1237e",
  "47c147d247d1247e347d1347e2347e12347f57c157d257d1257e357d1357e2357e12357f457d1457e2457e12457f34",
  "57e13457f23457f123457g67c167d267d1267e367d1367e2367e12367f467d1467e2467e12467f3467e13467f23467",
  "f123467g567d1567e2567e12567f3567e13567f23567f123567g4567e14567f24567f124567got7f1ot7g2ot7g12ot",
  "7h8b18c28c128d38c138d238d1238e48c148d248d1248e348d1348e2348e12348f58c158d258d1258e358d1358e235",
  "8e12358f458d1458e2458e12458f3458e13458f23458f123458g68c168d268d1268e368d1368e2368e12368f468d14",
  "68e2468e12468f3468e13468f23468f123468g568d1568e2568e12568f3568e13568f23568f123568g4568e14568f2",
  "4568f124568got8f1ot8g2ot8g12ot8h78c178d278d1278e378d1378e2378e12378f478d1478e2478e12478f3478e1",
  "3478f23478f123478g578d1578e2578e12578f3578e13578f23578f123578g4578e14578f24578f124578g34578f13",
  "4578g234578g1234578h678d1678e2678e12678f3678e13678f23678f123678g4678e14678f24678f124678g34678f",
  "134678g234678g1234678h5678e15678f25678f125678g35678f135678g235678g1235678h45678f145678g245678g",
  "1245678hot78g1ot78h2ot78h12ot78~F[p]mm~%%JvS~%.vvS~(%AvSmm|STWOoKq?~c%JvR~O.vvR~Tvrza~l]Nzbe[1",
  "q)mivo[1rF%JvWrJvWq)|^[2rJ[2rCWOoK[2rKq^vJSTEM~Y]M?(mivq?(mk.!=^nd]m~%[p=^^~]mmm~x%K-=^mi.w-=^",
  "mj%JvQ-=^|%.vvQ-=^|.%L?)~T.x?)~0q? ?)~x.z ?)~!(pqM=4q)|gv^qM=6q)|g^Eq_miv^q_|p=4q_mi^Eq_|xq;(n",
  "~Ov^q;=4q)~i=4q;=6q)~O^Eq;(pq)~i.^t~xQud~xxRt~RIS!Mud~x=4q=(o(mq==4q)~!xRt~(o.^t~=4q)~x(mq=(p",
  "q)~c^Eq=(o]^q[DIRECTLY ..kq[.vTHwUCURV!M]KShvwjvuCURV!M%Umm.qSIDE ARC tcrL%ESIDE qzq)~Y?^qzrI",
  "shqzrL?^ARC tcq^(CUS|pqjq^PLUS~i&L;cCIRCULqvtcq)~6;cCIRCULqvqjq)~%qjtdtW~YtctdtW~B.y;s%K~(%M;s",
  ".w~(;s.xp7~(.!PLUS sI~T%NPLUS sS.vq]X|uq]=L~i]LTWOoKq,FROM =L~!$,sAB [?.fsAB vby$|pvb.fsAB [?",
  "y$~c[?sDvbsAB $,y$|]vbsDy$~c$,sAB [?.fsAB [?y$~2[?sDvbsDy$mm_tsAB vb.fsAB vby$~l[?sAB $,vbsAB ",
  "$,y$~9%Q[??(~i.&[??(~l]O.f?(~lvt.f?(~r%Qvb?(~o.&vb?(~r]O$,?(~ivt$,?(~o%Q[?x=~o.&[?x=~r]O.fx=~r",
  "vt.fx=~!%Qvbx=~x.&vbx=~!]O$,x=~ovt$,x=~x%R%Qvymj]O$;]O..~,.(.&vymlvt$;vt..~^%R.&UP~rvbp5.&vymm",
  ".(%QUP~ovbp5%Qvymm%R%_mgvbsI %_~].(%_mgvbsI %_~^]O$;vt..~?vt$;]O..~?.jq^;Ky(~cwap9~2?tp9~i%M?s",
  "~c.y?smcp^~l%2p7~BFT][q]%1~Yy1.%=up9~B%Jq]=t~L=! p7~L$,F!g=^mc.fF!g=^md[?F!g=^mvbF!g=^mc[3DELI",
  "MITER~B^wSPOTeTYPE thmj%DuFmm.puF|g%D,Tmk.p,Tml^w$,z=sk|Fz=sk|LBINu(skmi.fBINu(sk~T%B[.~Y.m[.",
  "~2%B?l z??^t.~%.m?l z?sht.~?%B?l z?sht.~;.m?l z??^t.~($,qani|)qani|]ARC %2sk|yARC y0sk~LvP$,AR",
  "C y0sk~EARC %2sk~6s0[C.fs0[A~2vJFENCEm]a^!%&mi&7qe$)|)q9Vq&AN=.=8~O&7.hni~BqgS !TmgCUTE q8lSPH",
  "ERzwqe$)eUP|p[9q8_mq8mcqg[.mh.6qg[.|.(|qe]Q|p&7qg)nARM ENu(z?q[[[.,lvc.,mb.gUPm$.UPl.gvamc$.vy",
  "mh.6wTSETmgwTSE=.)?h=L p4|Fq,pc$,q.~OtUn$miD ]g,Si.4md,4PENDICULARmd DIVIDv_BY z7nA?_DIVIDv_BY",
  " ]g~_^XSU,4IMPOSv_XmiD qitbWISE-;Au.nK~%[?q]tU|6^Kstmstg%6mcnd=L TO ?X..b[ezaS TO ?X.e~?=d.^=G",
  "mjxR=GmkrS=LlQUARxF[eJO!IDn1SmfRIq8nm[.mkS z]mb[HqgSERIFS rTsgm|F[Jp5$,[I~6[JsU]c~Y]dsU.n~2BOW",
  "TIEn%|%LACK BOWTIEmTIMESn%m_;HOURyI_(HOURyI_,^Vmf.f^Vmg$=^Vmm.j^V|gINtjPLETE !KmhTIEnD!Kmf!K N",
  "EGrVuL]c~2vO-ENDv_MULTIMAPmj=bC)lOU.QOUT%&~BINCREASES ASm;xFFLE ,!mdw9nA=D,S^~?op4~^zyTOnA=D,S",
  "~YGLEICH =iKm?YMODYNAMICmbvmn%~(s0uovbrG&Mmb^KtYvbq)|;tYvbrKERROR-sA.Q^Rmsa^Kum_qummb^Ps3|gRUL",
  "E-DELAYEDlE]8SE =2)sm=1nd)?mi.4ndza~lBIG =1h.4|KPLUSl[1PLUSl%FuJqa~2.ruJqa~9TINYe(CYeN-ARY tZ",
  "u^)sPLUS )t?x)skUNI)0)rnidPLUSmm=9!Z)sjUNI)0)r|%[e%?qM)s)w)slN-ARY ?x)siMODULO [eSUM_&UMMr0nd",
  "!Vml,^!V )r|%FINITE ,PT !Vmi!Vndv1mgA]8AGv&=G|%CIRCULr1FUNuCmiqjINTEGRr0|g%(INTEGRr0ndRECTq6UL",
  "qvPrY A;JPOLE|.;cCIRCULqvPrY A;JPOLE~2(qINCLUu(?XPOLE~o!V A;JA ,j)r~TQUA?VI)0!V )r|.!Vnd%Jq_|g",
  "?x;!k!1f)?h[.mkJOINe$v$,[J)r|.^wStH&PtjPOSI?$lPIP!LfROJEuC|.,h^X=L pdt2 pbl?op4lvC?qlSUB;5TWO",
  "_q[I~B(Dndtm p4lvCxQu]SmRIS!MvId,hz?$,yo_[yo~LVECT)w)wt^,!ml(UnKnm[.~Y;cu)ndshCLOSED~cMrO ,!mb",
  "(Vz?$,yo_[yo~rtZ(UnOt2~_(Vz?vPtU~ctZu.nTj,hz]mj(D z]mjULTIPLICr0nLz]~O!WI)w,!me.eHqM!WI)w,!|p",
  "^w.WputjPOSI?$~YAMALGAMr1)wCO,!|g!Ynimj[=(Dk)?mg!Ynd)?h%?qL~B[=%?ORmdp5!0m!Zp5UNIONmmUNI)0p5B",
  "qvp5!Y~2!Zp5Bqvp5UNION~2UNI)0sUqMJO!IuLUNION~2!ZsUqMJO!IuL!Y~]td[=SERIFSmf!YndSERIFSm|K=9!1mh",
  "td[=SERIF;OSMrO ,!~!%?qLnjpdORnk|j%[mf[e!WSEC?!%[|%SLOP!M$vORcqLmf%?)w);LAPP!M%?qL|pANuL&$STEM",
  "miO.F&$STEMmhANuLz6uQmmO.Fz6uQmlqLnt)?mc[._7[.~T=VEv&[.ml%?ORnt)?h[.~O^wDOMAz?qi.X[HuCmkRq6E ",
  "qi.X[HuC~Tw9njsQzy^Xu_m_nz7ndv5mk[1]l~]ILDE )rnmRIS!MvIh;)(CUS SIMILARmjC)kRUwZnjpfw5;TrRmip^",
  "ndt2~iP,zXIMrVLY w5 )zhwap4nE;!|%,hp5wdwap5?sm|Qth w5mg[etvSECUT!;w9S|%zetvSECUT!;w9S~Lwb[gnA",
  "[j~?IVpxN=.xx~O%1ne!T|.yZne!T~O%1nd.B piyZnd.B p4~i%4~By2~T%4ns~,y2ns~]%4nk~(y2nk~?%4njp8~_y2",
  "nk $)~~%2)wqtmmy0)wqt|%%1nA;;m|rqM;;~x%1nA(qqt~ByZnA(qqt~T%3v7w6yZ~~y1v7w6%1~~%3;))x~Ty1;))x~9",
  "%3;)p5yZ~!y1;)p5%1~!%3y1v7w5~~y1%3v7w5~~%3=Dw6y1=Emm~(y1=Dw6%3=Emm~(=Dw8m%1ns|gyZns~]v7w8mm=D",
  "w8~(;))w%6mdp5%3wdy1w9mm|QNES?G%6m%1nd[.~iy0);LAPP!M%1mjsU%1~B%2teCURVE|gy0teCURVE|.%2teuIp5=E",
  "~,y0teuIp5=E~]=IwjTHANm$uR THANl=IwjTHqG)z$uR THqG)ymlwbBUMPY pfe,vS!LLE-%(w9~l=wS!LLE-%(w9~l",
  ",v;;~o=w;;~o,vw9|p=ww9|p,v(s|%=w(s|%,vp^~L=wp^~L,v(r~2=w(r~2vP,wSmd=tnimb,6^Xu]mdBSE=.,hsP,6^X",
  ",hsRBSE=.(VsI~9,6^X(VsI~iB;hnjpi,4;hnk~csqw9|g,7wdsq?s|.,7?s~Lsqp^~B,7p^~Osq(s|p,7(tQUARE $,)o",
  " )s_h)o )r~Ltd=te,4SETgBSwo)yme,6)zd=up5=!mh,6p5=tmhBSwop5=tmf,6p5=!mcsU=tgqMJOINv_BY uQnd=t~;",
  "wQ )m!MvwePITCHxp$PTEE TOPmkT.NS]8Spu!0mxpK!PNONxpK!Lk;s$,=?jvk[?=?mb,4PENDICULA.FSmi]d[1.o~9",
  "v4$,[8NSTILE~2]dvP$,[8NSTILE~2v4vP$,[8NSTILE~x%_ FROM $,MEMBwj)CvP]9~,;svjnd)?mk]A^X[.mbp5;svj",
  "~9vPvk[?=?h=q(umk.6v1 (u~Ou=DIVIDv&.6NEGr0nZ~(]a%&nepa~OvjnesR,Sndzamf?s|.[3BINARY .Wmd^Xzblth",
  " )scNES?G%6|pv7=D%2)ymjy0)y~([1=2BINARY .W~L$v[3)r~2vP=2)r|9]ggN-ARY ^K]glORTH v^^KrC^E^KrF=4",
  "^KrC^E^KrF%A^Lmg][s0q)|Zs0rDvos0rE(ms0rC^Es1=4s0rC^Es1%As1[_s0rD.!TIP vnSj]KS~Y%NTIP vnSj]KS~T",
  "=b?^ymmcshymmf]Iufm|Muf~!uo$]?^ymmcshym~BOT?G=8_q$un1|H$un1|C]q|9]qmls0,3mc^K,3iHEXAGON_qHEXAG",
  "ONmbz6s0HEXAGON|a$w&aummi^K&aummis0&a&Mmi^K&a&Mmis0=Mh&M|O=R|Iz6ELLIPSEmm^Kz6ELLIPSE|a]aELLIPS",
  "Emk^K]aELLIPSEm_eq^=L|.?7%KSm_eq^tZPLUS|%)k %JSQUIGGLE rKEFT][[p]m|%x=mc[2rKq^vJSTEMl=^nd]m~%",
  "[p=^^~]mm~!q]X|g]^q[DIRECTLY $)~Ywap7~Y.3?tp7~(%M.3p^~,.vq]yZm=!~0,_.v,_E]8SE ?tp9~(z(][q. .3",
  "p^~;?tp7~c%Mp^md.3?s~(.y.3?s~,vo[N^!q)~l;s=FrDr]q)~K&a=i_]=J=ime^K=J=imes7,3~K.r,3~D$wOVpwOVpu",
  "!TmjtUne!TmiEaDnFmj=Fq_v_y(~cr]q_v_=^~r=Fq^z6=^~rr]q^z6=^~%w0q[vuNORTH ErQ~,;sBw0q[vuNORTH ErQ",
  "~|%J[O~O]L[O~F[Rvo[O~O%A[R[_[O~B(p[O|pv^[R=4[O|p^E[R%J[Tm|![Tm|c[T~ovo[T~ltc[N)q~%qj[N)q~?%J[P",
  "m|![Pm|c[Qvo[P~l>>(p[P~Yv^[Q=4[P~Y^E[Q%TvZ~i]PvZ~9.)vZ~lvvvZ~iz6TAB KEYmg]aTAB KEYme%J[OnD.v[S",
  "|Z[O %Svo[Sm_%[OnD%J[Smjvo[O %S]L[S|v[Umd]L[Umb.v[Umevo[Umd%Js4~9]Ls4~Y.vs4~cvos4~9qj[N.f[$mi",
  "sh[$|V[$mh?^[$~]RE[8N %WmNEW%(%Wmbxvt;q)S CIRCL!MqitbWISEm~Fs1>=&TYPE A wPCTRONICS~B?eD TOP-%r",
  "v_%Jwh.q%rv_]LwhTOPoOwf~(%E%rv_vowfmm|;%Jwf~O]Lwf~Fwf~Tvowf~ivv&A%U~T]P&A%U~L%T&A]KSm~x.)&A]KS",
  "m~!%T&Avw~O.)&Avw~Ts0uJvn;O%P~L]K;O%P|^q4rJq4q)|^qMvp~FqMvp~%RIBB)0q,vb%Wk[?%Wi$,UPh.fUPi$,vaj",
  ".fvaml]L^Kq?n$~; q~z?A .P BOX~O);LAPP!M^RShqMsZn1SmlsZn1S|gr~%sX|6XbseXmcs9tADmcuntADmj[9s0,3m",
  "jz6s0OCTAGON|aOCTAGONh&a]B[M|.vl[M~L%F[M~L.r[M~(NEPTUNE xs TWOme?_s3mjsis3mm%$s0CUSP~B;A%$s0CU",
  "SP~i^Kx!CUSPml;A^Kx!CUSP~O=9POSI?%!H|gUNCERTprTYnWGRO[?&2PLUTO xs [rfxudIVxGT.NSPLUTOk,zSERPIN",
  "AkA=lEAhHYGIEAgPHOLUSgNwmUSg^KMO)0SwPNA_]un)0t]mkTRUE %sMO)0ARTAmiCUPIDOgHADESfZEUSeKRONOSgAPO",
  "LLONgDMETOShVULCANUSiPOSEIDONi$?sbmi.ksbmj=in%|v[q|%]L[q|g.v[q|?[q|%ERIS xs )dmbSEDNAfRUSSzsrQ",
  "RO%?=%VIGINTILEjNOVILEgQUINTILEiBINOVILEiSwZAGONi[GDECILE~iwb!K sSUNITEDn8bSE,PrVDnbvODn9PASSE",
  "Dn5_u.hmiHELLSCHREIBwjPAUSEn5|pGLAGOLI?ks&AZ]XhDZELOfZwSpvfSLOVOfTVRIDOgUKUdFRITUfHERUeOTUdPEc",
  ";weSPIu2Y HAkYUc=JYUS^~=^mh^sITAe!=hSHTAPIChTROKUTrQI AmLATINrWMYSLITEmeCAUDrWCHRIVI~GAZ]XhDZE",
  "LOfZwSpvfSLOVOfTVRIDOgUKUdFRITUfHERUeOTUdPEc;weSPIu2Y HAkYUc=JYUS^~=^mh^sITAe!=hSHTAPIChTROKUT",
  "rQI AmLATINrWMYSLITEmeCAUDrWCHRIVI~l$$$nvV~W$nvV~M$n&^Pn;.F=^|zAn;=.ugycu4ycu3$Pu4$Pu3^xu4^xu3",
  "p_fMnwAaLPHA|,]Y.fzZ~MWnzWnv]YuD|bylH|YylHg=^Lwm PHImv&NOTCH_o.F=^mg(^&D.=!T~9%oE~BSUB;5=PJ~L",
  "(HV|g$$;T=$mf^x=$~lCOP?ks&ALFA|NALFA_^VIDA|NVIDA_^GAMMA|TGAMMA|DDALDA|TDALDA|DEIE|GEIE_?SOU|GS",
  "OU_?ZrU|NZrU_^HrV|NHrV_^?W?W|Y?W?W|JIAUDA|TIAUDA|DKAPA|NKAPA_^LAULA|TLAULA|DMI_|MI_)NI_|NI_)KS",
  "I|GKSI_?Ome=POmcs&PI_|PI_)RO_|RO_)SIMA|NSIMA_^TAU|GTAU_?UA_|UA_)FI_|FI_)KHI|GKHI_?PSI|GPSI_?OO",
  "U|GOOU_?uipxF~HpxF|(pr~Ipr|&uBEIE~WuBEIE~MuiKAPA~HKAPA|&uiNI|,uiNI|iuBNI~SuBNI~C)TOOU~IOOU|&SA",
  "MPI|TSAMPI|Dt_;mI|,t_;mI|i)T;mI~N)T;mI|=)Twl~Iwl|&AKHMIMzuKHEI|~AKHMIMzuKHEI|quiHORI~HHORI|(HO",
  "RI~N)THORI|=)THA|~)THA|qLoTHA|zLoTHA|b)THEI~IHEI|(HAT~IHAT|(Gq6IA~W)TGq6IA~M)TDJA~IDJA|(SHIMA",
  "~S)TSHIMA~C)USHIMA~S)USHIMA~C)UNGI~JNGI|&)U(]~J(]|&)UWAU~JWAU|pYMBOL KAIdMI ROfPI ROfSTAUROShT",
  "AU ROgKHI ROgSHI&PSIMA_^uB;mI~1uB;mI~PuBGq6IA~buBGq6IA~YtkNI p4iSPIRITUS AS,4fLENISmlAPITALnCB",
  "OyjzuKHEI|~BOyjzuKHEI|po^)Ux[DIRECT .Bmi!GRECT .D]8SE DIVIu2mmx,meULL =kjMORPHO%?DIVIu2|.yE=P",
  "qreRAEdSANdTrMUNcPHARe$6ReGyyQrMSHINeCH!bANdJILdCILcHAReXANdJyyHAEcEbIEdWEcHARcOEd>YNco^AEN|g>",
  ">TIFINAGHnCYAaBaHcGaHHfBERBwjACADEMY YAJmgYAJbDaHbDaHeEYcAFbKd[7KkYAKHHdHdBERBwjACADEMY YAHmg",
  "[7HkYAHHcAbKHe[7KHlYAQd[7QkYIbAZHeAHAGGqvYAZHm[7ZHlYALbMbNd[7GNcNGlYAPcUbARaRcGHe[7GHlAYwjYAGH",
  "jYASaSbHcTaHcCHcTTcVbWbYbZdTAWELLEMwoYAZmcYAZZdEbOjo|(GLABIALIZr2~2;f&4cpFtz$O|gwsLOAdMOAdROAd",
  "SOAcHOAeBOAdTOAdCOAdNOAcYOAeyJOAkZOAdDOAcDOAeJOAdTHOAetPAePHOAdOAdGGWAbIbv~EepASSrzCCrzZZrzCCH",
  "rve>Q^cK^cX^cGYrvmj>tlBEcVEcGzGDEcZHEcEc$2y%TSEdCzG;jbtEfFITAeES-TEfAbIEcDJERVf(JyR UKmYATcUc",
  "!dAk%=kBIG YUSh!e~!.h SUBSTITU?%&1mhvJSUBSTITU?%&1m|t=v|k=v|tvJ=v~T.fvJ=v~TAISv_!WPOLr1&1mivJ",
  "!WPOLr1&1~2vJ[F&1m_,[Fsk|y[Fsk|pAISEDn1_t.IOMISSI)0sk||.IOMISSI)0sk~BEDI?~IpuCORONISmf,QyROSl",
  "xpKv_,QyROSmg.6xpKv_,QyROS|%HYPODIrQOLEmvJOBELOSlWN][ANCORAme]LANCORr=vJ.rq8|g[((|zmmj!3!WROB",
  "q6miPALM B.NCHlzmndu6mj?nnd.?|V&D,QPHRASE sk|)&D,QPHRASE sk|.?nndu|mi$,]fQUz;||]fQUz;~B?^$?skm",
  "f.kskmksh$?skmf.kskm_t;yU sk|7;yU skmm$=,Tml.j,Tmm[l~Y)5u]nD[f,.~Y=dxvvE|.xdu^&Z_u.D]a?nmc.=PO",
  "INTk^3;f&%m_xts.Iu]dtm_o;cthmeDAGGE.F$,GUARD_hGUARDml[9DAGGERmOP yl;8nYWO-EM uQkHREE-EM uQmbST",
  "ENOyRzux?mk]a;~u]SmfWIGGLY ]a%&miCAPITULUMjvPzm_utm_z&CoR~9ASyc$,UP[8NmiO[(SUSPENSI)0&4k!3&DKA",
  "VYKA^~KAVYKA p4~i&DKAVYKAani|KS=?v_tsgT?G=1mc[1DAGGERmbMEDIEVputsc,QyRUS &4dUNCTUS wPVATUS &4j",
  "CORN!g]8SE DIVIu2miROSS PATT^8.ft]sAmc$,t]sA~LTIRONIqJs%ETmmMEDIEVpuw$.D%B=p~O.m=p~T%Bv1~l.mv1",
  "~o?_$||psi$|~B(|zmmc<<>>CJK RADzwREPEATgCLIFFf;7)em,8gBOXdTABLEfKNIFE )jDIVINr0kSEALdMp? )j$s ",
  ")fjSNAKEfTHREADgSNOUT )jy, )diqLeRAPd>tPKEfSUNdMOONeDErYfMO?YgCIVz.ANi]] )jFIREePAW )dh;,yl[GE",
  " TRUNK|pCOWdDOGdJADEeBOL=,CLOTHmbw?dSPIRIT )dkBAMBOOgSILKesxSILKmfNwo)fiMwle;mEPf.LdEWEdOLDdBR",
  "USH )jMEATdORTARgGRASS )elTIGERfCLO?WSh^E)disxSEEme;,zdmdzdesxSPEECHfHELLmgxoesxs=Tmf;,WALKmdW",
  "ALK )diCITYd-;,GOLDmf%^)disx%]eGrVmfM), )j.HeBLUEesxTANNv_LEA?YmcLEAFeWINDeFLYmeErT)ejsxEATme",
  "y(esxHORSEmgB)4eGHOSTfsxF!hBIRDe;VTmf;,WHEATfYEL&CmfsxFROGmf$Awvmfsxwvmf$ATOOTHmgsxTOOTHmg$Avz",
  "mhsxvzmh[8TLEg$A[8TLEmhsx[8TLE~OpDKq6XI RADzw)4d%&eu]d=GeEtvDgzZeTWOdLIDd&XdLEGSewZERez(fvbBOX",
  "iC);fICEdTABLEf)oiKNIFEfPOWERfWRAPeSPOONf.f)omcHIu(wVmeTw2DIVINr0kSEALeCLIFFfPRIVrVhAGprf(OfwV",
  "iARTHfStPLARhGOa S&CLYjwv!PBIGd^1ftOLDfROOFeINCHe=If$seCORPSEgS,zUTg(NiRI]8fWORKe)4SELFh[8BANg",
  "DRYd;sTHREADmvJCLIFFm%^S[HDEl[eyvSj;rOTfBOWdSNOUTfBR!wLEhSTEPey,eALBERDhDOOReyveB.NCHgRAPdSCRI",
  "PTgDIP,4gAXEd=8gNOTdSUNcAYdMOONeTRwBLACKe=keDErYfWEAPONgDO NOTgtj,PEhFURdCLANeSTEAMf]]fFIREeCL",
  "AWeFA?YgvPXiyl[GE TRUNKmdSLICEfFq6eCOWdDOGd,zF),iJADEeMELONfTILEeSWEETfLIFEeUSEdFIELDfBOL=,CLO",
  "THmbSICKNwmivJTwZlWHITEfSKINeD!hw?dSPv[fq)fS?,ePIRITg[ECKfG.HfCAVEeSTqLfBAMBOOg.9EeSILKeJrMNET",
  "d;mEPfxVhOLDdqLdP&CeErMBRUSHfMEATdINI=jiSELFeARR!.gMORTARgT)kUEgOPPOSEgBOATe=kP!LiCOLORfGRASSf",
  "TIGERfINSECTgBLOODfWALK wVmcCLO?WShWESTeSEEdzdeSPEECHgVp?EYgBEANePIGdBADGERg;mLLfREDcUNdxoeBOD",
  "Yes=TeBITTERgMORN!PWALKeCITYeW!IeD!w!LUISHlVz;AGEhGOLDe%]eGrVeM),fSLAVEeHORT =^v_BIRDmf.HeBLUE",
  "eWR)kfFACEeLEA?YhTANNv_LEA?YmcLEEKeS),fLEAFeWINDeFLYdEATdy(eFRAGRqhiHORSEfB)4eTp?eyjeFz(fSACRI",
  "FICIpuW!ImeCAULDRONiGHOSTfF!hBIRDe;VTeDEEReWHEATfHEMPeYEL&CgMz;ETgsZfEMBROIu2YkFROGe[HPODgDRUM",
  "eRATdNOSEewveTOOTHfvzg[8TLEgFLUTEmio?z!DESCRIP?%tF%C.embp5TO sJc%C&$qM..p5TO &$qMsPFULL SURR),",
  "mbSUR;JFROM paf$)e]D%Wl&H$)mm);LAIDm|BSPACEftqmjDITTO &2$BINDUS[HpuSTq5RDn5~9z!!ztg&4($ZEROml",
  "$,qcvPqd|tt?%Dt=|lt=|ts6~Es6~LPOSTpu&3GE=;&Zj$,[B|.%D%0~B.p%0~L%D[C.p[A~2%D=a|l=a|p]^uQj.6v0~c",
  "v0|%&Dv0~OPOSTpu&0xNeHq6ZHOU ())hmjz!LEVEL ??md._ &4eu1mhwZE.=??~Lyx;.u^??|Qu^??|%]_uQj]aKANA ",
  "REPErT&Ze^XVOICv_S), &4k&0]DykFmd^XVOICv_S), &0]DykF~Y&0&HykF~ctZPOSTpu&4hz!TwPyR %(FEv_;en5~]",
  "Hq6ZHOU ()?Qml]az!!y~9MASU &Zj,PT AL?Vr2mjz!Vq&r1!HmhylxYn0|%>zR%mAhAb=JIhIb=JUhUb=JEhEb=JOhOb",
  "$3KIcGIcKUcGUcKEcGEcKOcGOc;2ZAcSIcZIcSUcZUcSEcZEcSOcZOc?DTIcDIc=JTUiTUcDUcTEcDEcTOcDOcNrty%sFH",
  "IcBIcPIcHUcBUcPUcHEcBEcPEcHOcBOcPOcMruYAi^d=JYUiYUc=JYOiYOcRruWAiWAbIbEbOcNbVUc=JKAbEmmpJ$W]x",
  "~_$W]x~rzR!zVOICv_!!u! YORImj$WvPzmml %mAhAb=JIhIb=JUhUb=JEhEb=JOhOb$3KIcGIcKUcGUcKEcGEcKOcGOc",
  ";2ZAcSIcZIcSUcZUcSEcZEcSOcZOc?DTIcDIc=JTUiTUcDUcTEcDEcTOcDOcNrty%sFHIcBIcPIcHUcBUcPUcHEcBEcPEc",
  "HOcBOcPOcMruYAi^d=JYUiYUc=JYOiYOcRruWAiWAbIbEbOcNbVUc=JKAbEiVAbIbEbOj&%l-zR,z%]v_S), &Z~L !zVO",
  "ICv_!!u! KOTOmjo^BOPOMOFOnCBbPbMbFbDbTbNbLbGbKbHbJbQbXbZHcCHcSHcRbZbCbSbAbObEaHcAIcEIcAUcOUcAN",
  "cENcq6dwYcRc!|IUcVbNGcGNcIHcOnkmeNNmg>yx%8$j=h.c(A,dk;^tTri^m^tEUcYIcIixYERg%8=fk(g-?mg;_mb.b",
  "$i;]l?mg,djAN;]h^lmf&~-,cf;__s&~mb,coN;]oL?mltQf?1_s,cf=gmg;]oM,cftQk,N=ez%kYESz%a-;_me$R,amd",
  "=ezIk^lkO-YAaEdIdU-YEOcEcIeARAEAaEmi>z!ANNOTr1LIN$b&4.3&4)5&Z_8&Zhze&2xv&Zj?^&Zi&$&3sh&3FIRST ",
  "&2;7&3TzQD &2x&&3HEAVwU&3v] &2MqG&Z~OBOPOMOFOnCBUcZIcJIcGUcEEbNNdOObNNdIRcANNdINNdUNNdIMcNGGd",
  "prNdUNNdMcOMbNGdINNNlx3PbTbKbH_!GHcLHcZYjx3G_!GWcKWcOEcAHmgCJK =qTbWGcXGcBXGdSWcHZZbGcPbZWGeSZ",
  "WGeHZTbZPdPWGdZWbZZeNbHbSbPbSPcDbHZbGcSZbWZcTbGcPDbZcTNcSZZcWGdHXWGdZZZGfPGcQmpD$V%mKUcSIbUcTO",
  "cNUcHrtMUcRAb!|EbOmm,Wyx$hg(gf?mg.d;]ez%ftS$h Ai(g Ah?m Ai.a Ah&~ Ah,c Ah;] Agz% AhtQ AgHIEUCH",
  " AjKHIEUKH Aj?1 Aj,a AjzI AhtQ UmcKOREqGtFOJEONe HUmj>IDEOyR )iTw2MOONeFIREe]]eOODeMETALfv]fSU",
  "NcTOCKfHAVEeSOCIETYhNAMEeSPECIALhFINANCIALjC)kRATULr0mcLABORfREP.XwZjCp?eSTUDYeU,4VISEjwZERPRI",
  "SEk.XOURCEip?IqKiFESTIVALi.YeSELFeREACH~Bt0QUES?$iKINu2GARTENmStPOLgKOTOmc($?N)0sagWEN[smjzQ[s",
  "mkxp[smiIF[smj;|[smiwv[smlEIGH[s~i,PTNERSHIPnWtZ($TWwZY )hkzQTYa )fd!.mgyx$hg(gf?mg.d;]ez%ftS",
  "$h Ai(g Ah?m Ai.a Ah&~ Ah,c Ah;] Agz% AhtQ AgHIEUCH AjKHIEUKH Aj?1 Aj,a AjzI r=KOREqGtFCyqKOgJ",
  "UEUImkyxz% UmkKOREqGSTq5RD =)t0)iTw2MOONeFIREe]]eOODeMETALfv]fSUNcTOCKfHAVEeSOCIETYhNAMEeSPECI",
  "ALhFINANCIALjC)kRATULr0mcLABORfSECRETgMpxeFEMpxgSUITABLEiEXCELLwZjPRINTfATTEN?$jITEMe.YeCOPYcR",
  "RECThHIGHetAg&CcEFTe.efMEDIC!IiRELIGIONiSTUDYeU,4VISEjwZERPRISEk.XOURCEip?IqKiNz(md($TzQTY =Cl",
  "xpTYa )hjIFTYmiz$JANUARYhFEBRUARYiMARCHfAPRILfMAYdJUNEcLYeAUGUSTgSEPTEMBERjOCTOBERhNOVEMBERiDE",
  "CEMBER~x=9HGcERGcVjLIMI?GLIABz.TYnTktZ$VrsKrtSrtTrtNrtHrtMrtYAbUbOcRrtWAbIbEbOmh=9E.GNAME REIW",
  "r=APAATOfRUHUAfNPEAeARUeIN!LUeTIeUONdESUKUUDOhEKAAfONSUdOMUeKAIRIdRATTOeORIIhGARONdNMAeIyCNIIf",
  "KYURIIgGIRUDAAhKIROaGU.LUgMEE?~UhWATTOjGU.LUaTONjKURUZEIROgO)4gEESUeORUNAeOPOfSAIKURUfNTIIMUhI",
  ".;UgwZIbOfDAASUeESIdORUeTONdNANOdOTTOfHAITUfPAASwZOfTUfBAARERUhPIASU?~UhKURUdOeBIRUeHUARADDOgI",
  "ITOgBUSSYERUiHU.NeEKUTAARUjPESOcNIHIgHERUTUgPENSUdEZIfBEETAfPOINTOgBORUTOgHONdPONDOfHOORUcNeMA",
  "IKUROeRUdHy&RUKUeNSYONgIKURONfRIaBAARUiEGAaTONfE?~UhYAADOcRUeUANeRIT?~UfRAdUPIIdUBURUgEMUcNTOG",
  "ENiWATTOmz$HOUR ^z?T_1?Ja-)f~^=9HPAdu0AUcBrMOVcPCcDMa =chCUBEDiIUcE.GNAME HEISEIgSYOUWAgTAISYO",
  "UhMEIZImcCORPORr0lPA AMPSh(3MU AdAcKrjcMBcGBcCALdKCALePFcNFcMU FbGdGcKGcHZcKHZdMHZdGHZdTHZdMU ",
  "LdLcDLcKLcFMcNMcMU MdMcCMcKMcMM =ckCM =ckM =cjKM =ckMM CUBEDiCM CUBEDiM CUBEDhKM CUBEDiMnDSa ",
  "=cme,2KPAdMPAdGPAdRAD^;Sa =cmgPScNScMU SdScPVcNVcMU VdVcKVcMV MEGAhPWcNWcMU WdWcKWcMW MEGAhK O",
  "HMfM OHMfAMcBQcCCbDbnDKGiOcDBcGYcHAbPcINcKKbM CAPITALjTcLMbNbOGcXcMB =IhILcOLdPHbMbPMcRcSRbVcW",
  "BcVnDMiAnDMmdz$DAY )i?T_1?Ja-)hkzQTYa-)4~?=9GALk*+n^o,HEXAyQ?XCREAT!;HEAVENmdRECEPT!;v]mhDIFFI",
  "CULTY rT?XBEGINN!L|%YOUTHFUL FOLLYmcWAIT!PtvFLICTi?XARMYiHOLu(TOGE?Yme=JTAM!Q[GAD!LiPEACEfSTqL",
  "STz;kFEL&CSHIPkGRErTPOSSwmIONmeMODESTYhwZHUSIASMkFOL&C!LjWORK )0?XDECAYEDmhAP,zACHiC)lEMPLr0mb",
  "BI?!THROUGHmcGRACEfSPLIT?!A,PTmdRE[8NgINNOCENCEjGRErTTAM!Q(O t.SmbGRErTPREPONu2qKmh?XABYSMpu]]",
  "mbCL!L!MFIREmfINFLUENCEjDURr0iRE[GAThGRErTPOWERl,zGRwmiDARKEN!M)C?X%rmk?XFAMILYkOPPOSI?$jBSTRU",
  "uClDELI]8qKjCREASEiINCREASEiBREAKTHROUGHmtj!MTO MEETmcGA?W.=TOGE?YmgPUSH!M]KmcOPPRwmIONk?XWELL",
  "iREVOLU?$k?XCAULDRONiAROUS!MTHUNu2meKEEP!MSTz; (N|pDEVELOP&!l?XMARR^pMAIDENmhABUNDqKj?XWANu2ER",
  "iGwZLE WINDlJOYOUS LAKxGDIS,4SIONkLIMITr0kINNwjTRUTHl=JPREPONu2qKmhAF?UtjPLE?$meBExpE tjPLE?$",
  "~L*****++YIn4!$,Aw;bWUcB!$,B;NP!,]SBB!$,BRcYTbXcYaPeNB!(r4]R;MeHM!,]RRcYXcYaPbRXcReM!)))w;b]RR",
  "cYTbXcYaPdFITbXcIaPcATbXcAaPcOXcOaPc]RRcYTbXcYaPdVITbXcIaPbETbXcEaPdr4EXbPc]SD!),Cw=RdT!)))w=R",
  "dDD!),BReNDITbXcIaPbw;cr4w=ReHN!$OXcOcOTbXbPcw;aPcUTeN!(AXcAaPcU,BRdHL!)OXcOaPdOXcOaPcw=;MeL!$",
  "))w=;NG!$))wtRdK!,wtRdGGITbXcIaw;aPdr5))wtReMGIw;cr5,BReHX!$))w;aPeNGIw;aPdr5OTbXcOcOTbXcOaPc",
  "w;aPeHITbw;cr5))w;aPdWr5OXcOaPdOXcOaPcw;aPdZ!),B;NC!$,B;NZZITbXcIaPbETbXcEaPdATbXcAaPcOXcOaPc",
  "w;aPc]TeNZ!)OXcOcOXbPcw;b]TeS!),B;McS!(r4w;aPcUTbXcUaPcYTbXcYaPbRXcReZHr5,AwueCHr5))ETbXcEaPc",
  "]TeRRAXcAbU,CwueNRATbXcAaPcOXcOaPcwueSHr5,AwueRr5,B;NJ!&]SQ!&]SJJ!%,A]RRcYTbXcYaPeNJ!%,C]TdY!%",
  ",AUTbXcUaPeX!%,CYTbXcYaPbRXcRdY!&]R;Mmo[RADzwQOTdLIcKITd(]PeCYPdSSIdGGOPdEPdMIcHXITeLYRdBBUTeM",
  "OPdYOcPUTdHXUOeTATdyCZUPdCYTdDDUReBURdGGUOeNYOPeTUcOPcJJUTeZOTdPYTdHMOdYITdVURdSHYdVEPdZAcJOcN",
  "ZUPeJJYdGOTdJJIEeWOcDUc;xReLIEdCYbUOPdIPdHXOPe;jTeZURd;rPeCzGZZIETfNBIEeKE_pLISUnCBAc,Yu0?AyCK",
  "rqJAcCrqDZAdTSrrMAc(3$(;2Zy%Ac(cy%XAcHy&xU^ASy&^dGy&AaEcEaUcIbObUaEbHcOEc?.MYA TIgNA POfMYA CY",
  "AdBOc(3JEUmh,;tq|pVAIn4EEaNdHEEdWEEaNePEEdBHEEdEEdMBwBKPwBMGBEEfGBwBFEEdVEEdTv~HwBDHv~HEEfLEEd",
  "REEdDEEdNDwBSv~HwBZv~HwBCEEdJEEdNJwBYEEdKEEd(eEfGEEdMEEdNv~YwBIaNcHIaNdWIaNdPIcBHIcIcMBIdKPIdM",
  "GBIeGBIdFIcVIcTIbHIdDHIbHIeLIcRIcDIcNDIdSIbHIdZIbHIdCIcJIcNJIdYIcKIcNGGIeGIcMIcNIbYIdAaNc(bNeH",
  "AaNdWAaNd,2By%AcMBAdKPAaNeMGBAeGBAdxUVAc?ADHrr$(RAcu0NDAd;1ZrqCAcJAcNJAd^dKAaNdNGGAeGr)NAbYAdO",
  "OaNdHOOdWOOaNePOOdBHOOdOOdMBOOeKPOOeMGBOOfGBOOeFOOdVOOdTOOcHOOeDHOOcHOOfLOOdROOdDOOdNDOOeSOOcH",
  "OOeZOOcHOOeCOOdJOOdNJOOeYOOdKOOdNGGOOfGOOdMOOdNOOcYOOeUaNcHUaNdWUaNdPUcBHUcUcMBUdKPUdMGBUeGBUd",
  "FUcVUcTUbHUdDHUbHUeLUcRUcDUcNDUdSUbHUdZUbHUdCUcJUcNJUdYUcKUcNGGUeGUcMUcNUbYUdOaNcNGONeHOaNdWOa",
  "NdPOcBHOcOcMBOdKPOdMGBOeGBOaNeFOcVOcT,EDHObHOeLOcROcDOcNDOdS,EZ,ECOcJOcNJOdYOcKOcNGGOeGOcMOcNO",
  "bYOdEaNcNGENeHEaNdWEaNdPEcBHEcEcMBEdKPEaNeMGBEeGBEaNeFEcVEcTxBDHEbHEeLEcREcDEcNDEdSxBZxBCEcJEc",
  "NJEdYEcKEc(eaNfGEaNdMEcNEbYEcGc%Zmhtr.CSYLLABLE NDOLE xU$1SOOmeMBOL FEwYfKEwYfT!LeNIIdBq6eFp0T",
  "p0Dq6dO)kfK[;eT)keDO-OeJ)kluwSYLLABLE NDOLE MAcDOmj<o]uKs&ZEMLYA|YZEMLYA|JDZELO|TDZELO|D.6DZE",
  "|,.6DZE|iIOTA|NIOTA_^DJERV|TDJERV|D(JyR UK|,(JyR UK|iBROAD )W|zBROAD )W|b(8YER|z(8YER|b^nr[ YE",
  "R~1^nr[ YER~P!dYAT|,!dYAT|i.6YU|z.6YU|b!dA|n!dA|5tf~Wtf~MBLENDv_YUS|zBLENDv_YUS|b!dtf~y!dtf~pY",
  "N_|YN_).6TSE|,.6TSE|i=0DE|4DE|P=0EL|4EL|P=0EM|4EM|P(K|z(K|bBINOCULqvO|zBINOCULqvO|bvP(K~1vP(K",
  "~RMULTIOCULqvO|.OMBIN!MuKVZMETf?N(Bmfzh (Bmj?4 (B~xSLAVONzurRmftlUK.HzsIEmIbYIcUby!)WmKAVYKAgP",
  "AYEROK|gYRz;zuKAVYKAgPAYEROKhs&DWE|GDWE_?DZ^JDZ^IZH^JZH^ICtH|NCtH_^DZZE|NDZZE_^Tv&&(Tv&&&TWE|G",
  "TWE_?TS^JTS^ITSSE|NTSSE_^TtH|NTtH_^HWE|GHWE_?SH^JSH^IvPO|8vPO|Ut_O|dt_O~O(GuKyz=0;!~2tlEFc!f~c",
  "BAMUM %i$1UbKUcv~REEdTAEdOb(]dIb$(,2RIIbwBLEEEEfMEEEEfTp0NDp0JAEMfMbSUUdMUcSHIIdIbHEUXeEUXeKYE",
  "EdETdN[&dUbJ[&fYOQd;xdYUQcAcN;jeKEUXePEUXeNJEEdTwBPUEdWUEdPEEdFEEdRUcLUcMIcNIcREUXdAEdKw2(fWAE",
  "NfyCAd;rdP[&eFUbOMd^A(3LIcPIcLOQdKOcMBENeRw2MENcAcTIcKIcMObBAAeTETdKPAdTw2NTUUeSAMBAfFAA&VgKOV",
  "UUdGHOMmbtk&0KOQNDONhTUKWwZISmmNJAEMLIhx[thdMMAf;cthj.Bmho~(GCH!ISE ?.Yz?P!Pq7P!LiINnHNGiq6nHN",
  "Gjz?QUfq7QUgz?RUfq7RUmiEX[E-zKvN|pzKvNmiMID vNm_5vNmhw,vNmhzKvK~czKvK~LMID vL&DvLw,vLzK%H~BzK",
  "%HmlMID %Hmk&D%Hmkw,%H|.u^]g=Gfz7mg&Lt;q8mm.I[?q)ivbq)kw$!7~T&D!7~BST.X;OzK?,j&G~9$$wDpxF~1wD",
  "pxF~PwDpr~WwDpr~MHwY|NHwY_^TZ_|TZ_)T.Xz;O|8T.Xz;O|UCUATRz;O|dCUATRz;O|0CUATRz;(^tm~bCUATRz;(^",
  "ts|XFbS|0AA_|AA_)AO_|AO_)AU_|AU_)AV_|AV_)AVn$~kAVn$m|5AY_|AY_).6Cni~8.6Cni~UKn[Kn?$Puh$Pug$P=r",
  "ue=pm~f$P=rue=pmm|0BROKwUL|8BROKwUL|U$nzK=p~1$nzK=p~Os(%~~y(^%~~os(LOOP|z(^LOOP|bOO_|OO_)Pn.~=",
  "Pn.~),Ixm~N,Ixm|=,ISQUIRREL =^~b,ISQUIRREL =^~ZQn.~=Qn.~)QnduhQndugR ROTUNDA|dR ROTUNDA|0RUM R",
  "OTUNDA|zRUM ROTUNDA|b]Yuh]YugVY_|VY_)VISIGOTHzuZ|,VISIGOTHzuZ|iTzdn)~WTzdn)~MTzdn.m~mTzdn.m~dV",
  "END|NVEND_^ET_|ET_)IS_|IS_)tv|Gtvmk(GUSmg$%DUMdLUMdMUMdNUMdRUMme%nRUM|dTUMdUM_)INSULqvD|fD|1F",
  "|fF|1Gj[9!U~S[9!U~C[9L|8[9L|UINSULqvR|fR|1S|fS|1T|fT|.(G&Dt2mjthf;sw9~Y$$;VTz;O|8;VTz;O|U[9H|8",
  "$n.0nABELTm~RSINO%?u]|0(0u4(0u3svsA|nsvBrM,Lyc,K~Ur?xm~Nr?xm|=Fn[Fn?VOLAPUK AE|oAE|5VOLAPUK OE",
  "|oOE|5VOLAPUK UE|oUE|5x_)Ax_(~$P)A$P(~(0)A(0(~.F)A.F(~;T)A;T(~Hnv.8xG;5Gi$nBELTl=Js%I~L%nQ|0[9",
  "KbTi!~tOdBETA|NBETA_^)W|T)W|DUn[Un?yJA|eA|0yJI|eI|0yJU|eU|0)SPOL!gO|,)SPOL!gO|iq6LICANA W|zq6L",
  "ICANA W|bsv,LSnv^x,LuL;u~$uL;u~s;T;u~$;T;u~ro^s&td!U~Std!Ume>vPTzdf>WYNN|b&$SCOTS S~G&$SCOTS S",
  "|&SIGMOID S|dSIGMOID S|.o=(HCbFbQ|g$$.6ylH~N.6ylH|.EPIyRzv;yI~2(HHn==QOE~Y$!%oM~BEPIyRzv.6FbPk",
  "!3Mj %]Ahq!M~YSYLOTI NAGRI %iIi;$DVISVARr;%8UbEbOi;$HASqhAm%l,EGObHOk;$qlmb%8C,EJ,ETTObHOeDDOb",
  "HOeT,ED,ENOcP,EB,EMOcROcLOcRROdSOcHO_cAb!|EbOOmbPOETRY &Zn~_wqAHASqhA~9o[NORTH !GC x;wLS|g.A&4",
  "PLACEHOLDwj&4eRUPEE &2QUqiTY &Z|go_PHAGS-PAnC$0[4^B=JAh^gSy%r$rsQAcXAcxUGGAdEEj=s^AYAmh%8TTrrD",
  "DAdNNAdqAYAmVOICELwmnHiD HAjASPIRrXFAmh=sRAmf,4FIXEDnCRAmi%8szmg;.y)mevPy)me&ZnHDevOnHD|go~SAU",
  "RrOT.G;%%fRcLaLkEaEcAIc,Dr7(=,1r%kt!HAARUmi]%RcLaLkEaEcAIc,Dr9szmeo~uOlIGIT ^ymjo]pJDEVANAGq& ",
  "uw%iUb$1(3,2RAcVIj;$AVAGRAHA~2DEVANAGq&nLSPAC!Mszmhs!]rmgvPs!]r|gs![rfAVAGRAHAmiPUSHPIKr;GAP ",
  "xYERks=ETfy(=pk;$SIDDyqmJAz?OMh%9Y_cAYmmKrbH LI uw%lrqyC(c;1Zr,TAcHTAd(3,YMAcu0BAcRAc^d$(^ATy&",
  "y%VAcCAcAbOEcIbOOj]yUEcEbUbv~Oh?.PLOPHUgCALYAa PLOPHUmf;$CWIdSHYAmgREJq6nC$3(c?D(3,2Br)CAcJr,",
  ";2.O^dWr$MBAdNGGAdu0YJAeAi]z!|w~EUbr;t!NGcNbRbHme]spC;ayxtPSE)k ?m-&~f,cf;]etQm.aoL=e$hl?mg=h",
  "(A$S;]etQfKHIEUKHmb&~oN;]k,d-?1m$azJ=e;]-,cmdz%-.afzJ=etQ-zJ?1m,a-zImbzI-;]k=e^l~To[JAVANESEnL",
  "PANYq6GAjCECAKfLrbRfWIG(,Nm%iI KAWIg!?UbPA CEREKi(b LwPTa RASWADImfw|KAanGfMURDAiGA^.(cCA^.JAc",
  "(, MURDAjJA MAHAP.NAm(,dTTA^,r;DDA^,r;NA MURDAiTA^.DA^,Am(3PA^.BA^.MAc^dRAa AG[;i$(^ASA MURDAe",
  "AHAP.NAlr!j;$CECAK TELUmd]zTAR[;fO%]gWULUa MELIKkSUKUa MENDUTlTAL!LgDIRGA MUREkPEPETmet!KERETf",
  "PE(fALhCAKRAmiPA(fONh$,RERwYGANmc.fRERwYGANmdPADA q5PfMADYAfLUHURfWINDUfPA(fAThL!LSAf[;SIgADEG",
  "a ADEGjPISwPH_oPADA PISwPHmh>Pq6RA(fEPluwo]PADA TIR=;TUMETESmbISEN-ISENml(ZSHqGGy&tGJy&NNAdBHA",
  "md;!nHN SAWmb(GSHqGREDUPLICr0~2%8=](,dxUGrqJrqDDrrNNAmi=]uvmi%8=]LLAdDrqBAbHA|.>Cyq %i!|w|$XNG",
  "UEcAdCHrrJrqNHUEcAbJAe?BNUEcAcDDAdPAbPr&BrqMUEcAcBBAd^hS;2r!j]!!?EIcUbOEcObAIbUcUxEt!^gWAmfpA",
  "%kKbGbNGmdt$NGml%kCHcTbNbPbYbRbLbSSmdt$MbHmkpK>>,;SPIRALguO_nDq5~B(ZKyqTI yCCrqJrq(.y&y&(3;2H",
  "rqFAme(GKyqTI REDUPLICr0~c%lyqTI XAcZAcRAmdOGOyP KyqTI OAYdQNcHMmg=%AIT)0EXC$pr0l)dme%9IT)0RAm",
  "d;$PAO KARwU?,mc=]?[2b5|WSHWE PALA[; tG;j~OTAI VIETnC&DK,FK,HKH,GKHOi&DKHHOizKKHHOj&DG,FG,HNG",
  ",GNGOi&DC,FC,HCH,GtPi&DS,FS,HNY,GNYOi&DD,FD,HT,FT,HTH,GTHOi&DN,FN,HB,FB,HP,FP,HPH,GPHOi&DF,FF",
  ",HM,FM,HY,FY,HR,FR,HL,FL,HV,FV,HH,FH,HOfzKOmb&WKq6i]yAAcIbUEcUbEbOh&WKHITi]yIAcUEAcAcAUEcYbNbM",
  "i?.&WEKcNUwYfTHOdS)kmbo==%KONdNUwYfSAMdHO HOIgKOI KOImlMEETEI MAYEKnCEbObtG(;Sy%SA_iIIcUUcAAIc",
  "UbAUmctHI$6NiAHq7KHUDAMlNJIeSYLLABLE REPETI?%&4m^3REPETI?%&4i]z]tmfI.LAmhpBwsTTHUbIbAAcv~EbOe>",
  ">DDHUbIbAAcv~EbOd>>ZUbIbAAcv~EbOdpACCHHrvf>BBrvmj>$%sA.Qp_mA .5-;3mesZ%8EmAR.QEiv&xmmdLENIS Fh",
  ";5x_t||p$n!8vP&^&=mg&Ot|mh(0t|mhENx_t|mjsZ%8Oan)|g)nOn)mg!3OEl[9OEn)gzb )m-Oan)|%STIRR[?R|2.F",
  ".fLEG~kR ^YyvLEmevPRi.Ft||K.Ft||p;5R^~R!QgBASE%(wlm[y;tmiBA.F;t|gIc[9UIj[y$,zZmetO^~&F_eSERIFm",
  "l^7&FmNG $,LEG^&&Fmg^XSERIF~O^8;t~x(FBREVv&!4|g%mHwYe$n!8&^[y$,zZ~l$%SA$6 YATj!fk)nOEhUOc!3p_",
  "~Yy4%n)W~T$%DZ u%~LTS u%~BURNv_.F&$?n~,(I[9Wmc$,=?j.f=?|po]tHROKEE =PrmVbyC$1GxDHrn$&Mrp(3HNAd",
  "NAHcxDQUro;2SaxDu0TAcDEcTEcDIcTIcDObUbVbLAdT$&SroWrnYAmmMEETEI MAYEK %lOKdSAMdLAIdMITd,2(3tOLe",
  "TILdKHOUeNGOUeTHOUeWAIdYq6eHUKdUNcIbPyqeATIYAfGOKdJyqeRAIdBAcJILdDILdGHOUeDHOUeByqeKOK LONSUMk",
  "LAI LONSUMkMIT LONSUMkPA LONSUMjNA LONSUMjTIL LONSUMkNGOU LONSUMlI LONSUMmd]zONAPeINAPeANAPeYE",
  "NAPfSOUNAPgUNAPetHINAPhN[;mdtHIKHEIiLUM IYEKiAPUN IYEKj>>uvml**+++n^o)o_yxJ[;SE)k O-YEOdO-IfYO",
  "-AaEcEOfU-YEOdI-IfYU-AEcOeEU-AbEOcEbOeI-YA-OcEcEOcEcO-IdYObUcIdARAEA-AbEmeo])kSE)k (g-.aftOEUC",
  "Hmb=e?ma-,cmf?m-,cf;]a-$hltR?1mc.b=e$hl$izImg=e.bKHIEUKHmg.b&~-zJ,c-?mg,ambYESz%gORINzI-zIml$R",
  ".amb&~-(gf=fme=e&~k&~-,dktQl,c-?mg.b,amb&~l=gk,d-?mltQeHIEUCHmb;]-&~f$R,cmfSq6;]oL?mmdIOS-,NtR",
  "?1hzIkPAN;]-,cf$R,cmjYESz%-&~fzImctQ-,cf=gme=etQk,a-;]e?1~T**+++o]$!=QFFbIbLbFIbLd%^S TiSTmlpD",
  "q(=QMwUNOWdECHdINIhVEW NOWhMwUXEH~Oo^HEBREWnCYOuLzQIQmj,jJUDEO-SPAN!gVq&KA|p%qYIDD!gYOD YOD P",
  "rUH~BET?UAL?VAT!;rfmeWIDE pxFeDpxTfHEcKAFd$sDfxZMEMjRwleTAViAL?VATIVv%;!mjSHI(0SHz?u]hz?u]hDAG",
  "wlnASHz?u]hz?u]|.p.PrUHfQAMATSgMAPIQmdBETngGIMELnfmfDpxTnfmfHv&MAPIQmbVAVngZrfnfmf>TETngYODng",
  "xZKAFnfmjKAFng$sDnfmf>MEMng>NUNngSAMEKHnfmg>xZPEnfmiPEnfmc>TSADInfmfQOFngRwlnfmeSHINnfmeTAVngV",
  "A]YHO$pmcBE=.RAFxE$QRAFxEPv&RAFEmgz&pxF $sD|pqxpxF WASLA !jmjBEEybPEyaBEzETTEzEEHEybTEybVEyaPE",
  "zEDYEybNYEybTtHH !lmEH !lmhDDAHpu!jmeAHpu!sUL !qDpu!sJEH !rRREH !sKEzEGAF !mUEybNGOEybO)0GHUNN",
  "A !jmkRNO)0!pzFYEH p6|gGOpu!oDOACHrOMEE !l|%YEH sAREE !jk^Xyt~,=%u|_bvH_rpaf,mvopa~9xxfsLv4sP",
  "[mpa|g.;e=JTAH pamdWASLA pd<%8NG !mU !jmOv$!q[yys !i~TVv!$fOv$!jmjE !lmbUIGHUR KAZAKH $fpz!Sm",
  "&9~~z&^kpxF !rv!WAW !rU !jmOv$!qE !k~rUIGHUR $f^kpz!kmm~_ET?UFARSI YEH !l|%z&^k$F&rp(~%sH$G&r",
  "p)?K$G&rp(|gzF$E&rp,$Hyg&q|.yh$E&s$7$F&q|.;b$G&sppyg&suM$G&s=[yg&sZAyc&sps$E&syG$E&q~BxW$G&rp)",
  ",=yg&rp)$QpxF !img$G$p !imf&rp)$q$G&rp)&w$G&rp,(k$G&rp,zF$E&rp)^j$G&rp)THpw=z~r.V=z~opynd=z~]",
  ";jDDpUDAMMATqH$UTqHFrZ !uDAM&P!u$U !u=z~!^k.Sx2p$~rsH.Sx2p%?K.Sx2p$mkzF.Sx2p$mmxWp%,=p%$QpxF ",
  "x1$p x0mc&jp%$q&jp%&wpxF x1&g|g(k.Sx2p$mmpynd=yx0~,^j.Sx2p$mcysnd$D&mzD~!sH$D&mzD|g?K$D&mzDmm",
  "zF&o$I&oyh$C&n$7$C&o;b$D&nppyfmeKyfmf&nuM$D&n=[yf|gZAyc&nps$C&nyG$C&l|.xW$D&n,=yfme&n$Q$D$p !S",
  "me&n$q$D&mzD|g&w$D&o(k$D&mzD|pzF$C&m=y!S~l^j$D&mzDmdAMZA p4nd&t~xsH&u?K&tmlzF&ub;b&uzC&uc$Q$p ",
  "&9md&v$q&v(k&ub^j&u;jDDpUFrZ &9mfDAM&P&9mf$U &9~B=[p)psp)yGp(|.;bp)zCp(|.yhp)$Hp,$7p,;Up)uMp)",
  ";n$G&rREH !i|%EE(0.Upp.UuM.U=[p%psp%yGp$|g;bp%zCp$|gyhp%$Hp$mm$7p$mm;Up%uMp%;nJEEM x1HAH x0mc",
  "$6H x1&jREH x0mmEE(0.Tpp.TuM.T;n$D&oEE(0zD|gzCzD|%=[&n;bJEEM &9meHAH &9md$6H &9|gzCJEEM &9meHA",
  "H &9md$6H &9|%=[&vZAyc&vp.FrZTqGx0k!i~]ORNrW$|mmqw%qRAHIMAHU p[AHmbDI p[AHU ANHaAAcUMap0NNAmiS",
  "p?p[AHU ALAYHI WA-AALIH|%ALAYHI rNkM rNkAA rNmb AS-;VAATU WrN|.QUDDISA SIRRAH_&p?p[HU ALAYHI W",
  "AAALIHEE WA-Sp[M~iALAYHAA rNmfTABAARAKA WA-TAAALAAmiRAHIMAHUM p[AHme?K$H&oyhJEEM x0k!Smf&n$7&o",
  "&w$CyfmeKyf~c$H&x~cyh&y~!;byhJEEM !S|p$Ip!~Y&xme$C&ippyhye|g&w&g~YzCyh&h|p$J&wKyemf&icuMyhp&$7",
  "&i=[&xme&m^i~Yps$H&g|g&w&hmfp!~!yG&w&j^i_y~(xW$7&i,=&wHAH x0mc&k$qyh&j^imcp&$HJEEM !Smx0|g$7&h",
  "|%&x~9&wyh$C&m^iml$I&o$7$C&o>>$HKyf~izF&w$C&p(kyh&mp&$H&hmfp!~Y&y~%^j&w&isH$8~Y?K$H^i_y~Y$8_y",
  "~Y&y~!$H&w^immyhp&&wp!~%;b$7p!~!ppyi~OzCyi~2uMyi~T$q$J&z^jyiml$J&z&w&w^i~2,=&z(kyi~Y,=&wyf~9$q",
  "yh&l~9ps&z$Q&z(k$Hyf~c&w$8~2$q$H&p$Q&w&k$q$H&k(k$HHAH x0~2$Hyi~Yyh$Jj&w$JkxW&zsHyi~T$Q&w&pps$H",
  "&p;U&w&l~9EE(0$8~2(k$Jko|;VAAMUHU ALAYNAr=<<LA USv_AS KO.Nzu=knL!i~,QALA USv_AS KO.Nzu=knL!i~(",
  "p[H !imgKBqv!uMOyqMAD !imkSA$p !uRASOUL !imiALAYHE !imiWASp[M !imkSp[ !imcLLAHOU ALAYHE WASp[M",
  "|%Jp[JALALOUHOU~ORIALnQqw%qBISMz;AH AR-RAHMqGAR-RAHEEM~BSUBHAANAHU WA TAAALAAmjAZZA WA Jp?|.]3",
  "ORoEoamj,xtpz!tqmjtiw$.C%D%0~B.pLwZICULqvBRAKCET~Lz8S~_o]pJ%q$_|K?o$_ml&S$_mftvJOIN!M&Rmf%q$[",
  "sP?o$[sO&S$[sJltvJOIN!M&SsOYRz;zuTITLO $_~9,x[eu^LEAu2mcEM uQgN uQh&Ei]_&Emb$~$,uF|FuF|L[B|]s6",
  "~Es6~L$=qd|tqct?%Dt=|lt=m~,SESAME u]k^KSESAME u]me,x$)n2mh.en2~|uR)]mdtA%()]mh]_)]mbvP]_)]mhrO",
  "v_&EmdtA%(&Emh]_&Emb=Jtpz!tsfx[>;d.CwzmdM uQh$~$,uF|FuF|L[B|.($;!lqEi=jISKi,izn%5y3wc>.4mdu[tt",
  "mho]qwFrZTqHTATWEwOFrZTqGpfdDAMMATqH=^ FRAG&!mb$UTqH>FrZ !tDAM&P!t$U !t;jDDA !tUKUN !t%8yr!up;",
  "p6mkyt~T]|yt~Op.yrsI !j~T^jys !l~TpxF !sBEyaTEH MARBU=;!jmg!mHEybJEEM !oHAya$6ybDpu!rTHpu!sREH",
  " !rZAz?!sSEwU!nHEwU!oAD !nDAD !nTAyaZAyaAz?!nGHAz?!pFEyaQAF !nKAF !n$p !nMEEM !oNO)0!oHEyaWAW ",
  "!rpz!jmlYEH !lmjz&$qp;p6mkytmesI !j|%!j~r>>ZERO ^U(j|g>FULL^Uw%u[qFrS,itpznx[=1huwti%5wcy3.Ctt",
  "mb$$rkmjEFTn2mh.4mcz(n2mit3&EiyT$%rkmhEFT uFmg]i.fuFmh?nf%D,Tmk.p,T~YykF^Uz!x?|Vt?z!tsf$V&%k%8",
  "WOc=JrsYAbUbOcTUme-zR,z%]v_S), &Z~LnCrsKrtSrtTrtNrtHrtMrtYAbUbOcRrt^ANi]x~OyxxYERg%8$j=h.c(A,d",
  "k;^tTo[ri>>^m>>^t>>EUcYIcI|go[FULL^UCwZnQP),nR(ui&RgBROKwUsAkYENnPWONnTg>ykF^UxsS %s]9mi%O]Lq)",
  "mb.$vssa^PkpB!W%.ANNOTr1ANtPRg;ejTER(CA?~~YOBJECT REPLACEMw0tERACTER|.REPLACEMw0tERACTERmj>>%.",
  "Bn4B008 Ae38 Ee28 Ie61 Oe10 Ue01 DAf45 DEf07 DIf14 DOf51 DUe7 JAf46 JEf>36 JOf65 JUf77 KAf44 K",
  "Ef67 KIf70 KOf81 KUe0 MAf13 MEf73 MIf15 MOf23 MUf06 NAf24 NEf30 NIf52 NOe5 NUf03 PAf72 PEf39 P",
  "If11 POf50 PUf16 QAf78 QEf21 QIf32 QOf>60 RAf27 REf53 RIf02 ROf26 RUf31 SAf09 SEf41 SIf12 SOf5",
  "8 SUe9 TAf04 TEf37 TIf05 TOf69 TUf54 WAf75 WEf40 WIe2 WOf>17 ZAf74 ZEf>20 ZOe5 A2f43 A3f85 AUf",
  "71 DWEg90 DWOg48 NWAg29 PU2g62 PTEg76 RA2g33 RA3g68 RO2f6 TA2g87 TWEg91 TWOmd>>MBOL B018b9c22c",
  "34c47b9c56c63b4c79c8osb6b9l<<>>zz00 &Xf2 ^1h4 DEERg5 EQUIDgF MAREgM STp?IONl6F EWEfM .Lg7F ;m-",
  "GOATkM HE-GOATk8F SOWfM BOARh9F COWfM BULLi20 WHEATh1 sALEYi2 OL!.h3 SPICEh5 CY,4USmj(JyP B127",
  " KAPOg8 KANAKOmizz30 OILf1 W!Ig2mb(JyP B133 AREPAh5 MERImgzz40 BRONZEi1 GOLDg2b5 WOOLg6c50b1 ",
  "zdgosb4mb(JyP B156 [8O2mhzz57b8b9 CLOTHi60b1b2 GAR&!j3 ARMOURio!7o53 M)lHh4b6 [GEgo%8o8b9c90b1",
  " HELMETk220 xoSTOOLl5 BrYTUBk30 SPv[h1 q)hos SWORDh4b6c40 WHEELv_CHq&OTmf1 CHq&OTj2 CHq&OT F.L",
  "xG3 WHEELh5b6mb(JyP B247 DIPTEmhIDEOyP B248b9c5on DARTg5b6_OeVwmEL B155d2o2om6_T0d305~Bo^AEGE",
  "qG^3;f%&eu]mgtJ&2o](&?S)bzkzfxzwxzlzgx%wywIzQ[uxp[tIFTY ?6;|[twvTY ?5ewMN!ITY ?5ko[WwEBASE UNI",
  "Tjx8mb;7SUBUNITmcTzQD SUBUNITmbx&SUBUNITmjDRY MEASURE x8|gLIQUID MEASURE x8|.MEASURE ;7SUBUNIT",
  "mcTzQD SUBUNIT|.y4ACROPHONzuAT?k)5,~hykFeDRACHMAlF!.cFTYdVE zhh?4lFTY ?5VE =~m?N=~lFIFTY =~mb",
  ")8=~mhxh =~mi)5?4 =~mixd?4 =~meSTrVRSm?NSTrVRSlFIFTY STrVRSmb)8STrVRSmhxh STrVRSmi)5?4 STrVRSm",
  "i?O STrVRSmiFIFTY ?4 STrVRSmk?NMNASmcHERAEUM )5PLwrRONmi?Z)4mHERMIONzsONxFEPIDAUREqGTWOmc?ZTWO",
  "mCYRENAzu[eDRACHMASmjEPIDAUREqG[eDRACHMASmlTROEZENzsF!.eTEN^%~BHERMIONzsTENmcMwmENzsTENmb?ZTEN",
  "czQTYmcROEZENzsFIFTY^%~OHERMIONzsFIFTYme?ZxX?7zhmkEPIDAUREqGxhmlTROEZENzsxhmkHESPzsxhmjs=YSTzs",
  "xhmkNAXzsxhmh?Z)5?5xd?5kDELPHzuxdMNASmf=lTzsFIFTY MNAS~L)5yl;!^%|.[oSnVze,~SnThYv[nQTALwZnSDRA",
  "CHMAnTOBOLnK_b)Bmbze)Bmexv)Bmc!;)BmdME[GTESnUKYrYOS BASEnXLI[EnROUNKIAnSXESTESnSARTABEnQOURAnS",
  "yPMAnSTRYBLI)0BASEnTgZEROnQ)5,~nWSINUSOIDnU!GuCnYNOMISMAnT>ROMqGSEXTANSnTUNCIAnRSEMUNCIAnSXTUL",
  "AnTDIMIDIA SEXTULAnYSz.QUAnTDENq&USnUQUINq&USnVSE=jTIUS ;&DUPONDIUSnVASnKhCEN[8IALnYASCIAn8o[",
  "y4=%TAU RHOmi<<pGPHA!wOS DISCnLPEDES[HANjLUMv_y(lTATTOOv_y(mbCAPT!.gHILDf^1fHELMETgGAUNTLETiTI",
  "ARAfq)fBOWdSHIELDgCLUBe&XACLESgTTOCKhSAWdLIDdBOOMERq6js=PwZRY PLANxGDOLIUMgtjBeSL!LfCOLUMNgBEE",
  "H!.hSHIPezddIDEeBULLS LEGjCATd.LdEAGLEfDOVEeTUNNYfBEEdPLANE [GEkV!IePAPYRUShROSETTEhLILYeOX r[",
  "hFLUTEfGRrVRg=l!IRhMp? AXEj]_BqLjtk(|=p~%o(>>LYCzs%iEbBaHcGbDbIbWbZbTHcJbKbQ_VbMMcNNcUbPbKKcRb",
  "SbTaTcANcENcHbXmdo[s=zs%iP2cDbLbUUUdRbLDcA2cQbBbMbObD2cTbSHa2dSbC-18eUbNNcXbNbTT2dPbSScIbEbUUU",
  "UeKa2cNDcUUcGa2cSTa2dNGcIIcC-39eTTcUUU2eRRcMBaosb4dLD2dE2cUUU3mfpGOP?kEPACT ?4S &4cus?S)bzkzf",
  "xzwxzh~To])S!x%iBEcKEcDEcEbVEcZEcHEcTzGIb$1ELbMbNbSHdObPEcSzGKUcERbScTEcUbEKSdPzGKzGEFbRSdCzGI",
  "IcUUcwmk())4dF!.eTw2FIFTY_p%8YEcNOR?YN TSEmSOU?YN TSE~LGOTHzvAHSAeBAIRKANhGIBAeDAGSeAIHVUSgQAI",
  "RTHRAiIUJAeHAGLeTHIUTHgEISdKUSMAfLAGUSf&XNAfNAUTHSgJERdURUSePAIRTHRAiN!ITYgRAIDAfSAUILfTEIWSfW",
  "INJAfFAIHUfIGGWSfHWAIRfOTykf(izh|po^)S,4MzvANcBURdGAIdDOIdEbZHOIeDZHOIfZrUeDZITAfIbKOKEeLEIdME",
  "NOEfNENOEfVOOIePEEIeREIdSIIdTAIdUbtHRYf;rOIdtPOIhYRYcERUe,DEFcy%TSIUe]8dYERaIdATdIEcYUbAcIAmi",
  "tk)S,4MzvANcDOIdZrUeNENOEfSII~Oo^UGq&TzvALPAeBETAeGAMLAf$9DELTAfHOcWOcZETAeHOTAeTETdYODdKAFdSH",
  "INe$rfMEMdDykeNUNdZUcSAMKAfA!bPUcSADEeQOPAeRA;jfTHANNAgGHprfTOc!|SSUk>^3DIVIu2mj)S,4SIqJAb!|KA",
  "bUcGAbUcXAcCAcJAbIcTAbUcDAbIbUcTy&,2BAcxUNAbUcMAbIbUc^dVAbIcRAbUc$(;2ZAcSy%SAdy%o]AU.LAZDAAa-2",
  "cHAmX;jAYrYIYAmDAHYAAUSHa-2lBAGAdUUMISHm^3DIVIu2m($)dcENcWwZYgzh|p<o?DESERwos&%^!_Oh;s!_OiAYcO",
  "WcWUcYEEdHbPEEdBEEdTEEdDEEdCHwBJEEdKAYdGAYdEFcVEEdwrdTHwBEScZEEdwldZHwBER_VaGdOIcEW_|%^!_Oh;s",
  "!_OiAYcOWcWUcYEEdHbPEEdBEEdTEEdDEEdCHwBJEEdKAYdGAYdEFcVEEdwrdTHwBEScZEEdwldZHwBER_VaGdOIcEWml",
  ";jVztPEEPeTOTdKICKeFEEdTHIGHfSObUREeCHURCHgYEAdH[;eBIBdDEADeGAGdVOWd?WYeZOOdMEASUREhJUDGEfWOEd",
  "HA-HAfLOLLeMIMEeIFcEGGdrOcDOdONcWOOLeOUTdAHcROAReNUNdEATdAGEdICEdUPcOAKcOZEdILdAWEcREdORcAIRdE",
  "RRdARRAYfErMIANdYEWmgOSMA(,nCpxFeBAcTAcJAcXAc$9DEELeRAcSAbHIINfDy&CAYNeyCxUQAAFeKAAFeLAANeMIIN",
  "eNUUNeWAWdy%^drmAAcv~OOj>>uzo_AGE s&AaIaNcHcBRAdtGEHtEfEa!bHAbYAdIb$1EHKAeKYAdLr)(3Oa!b,2EHPAe",
  ";1TAcEHTAeTSAdEHTSAfT;jeDy&Ub^A$9Gy&ZAbHA|B=PAaIaNcHcBRAdtGEHtEfEa!bHAbYAdIb$1EHKAeKYAdLr)(3Oa",
  "!b,2EHPAe;1TAcEHTAeTSAdEHTSAfT;jeDy&Ub^A$9Gy&ZAbHAmko]ELBASqIrjEcCxBDEcNDEdDzGEIcEbFEcGEbJEdHE",
  "cIbJEcKEcLEbLEdMEcNEbAbJEdObPEcQEcREbREdSE_UYbZxBGHEbAMMAgKHEmgo~CAUCASzsALBANztALTdBETdGIMdDA",
  "TdEBcZARLeEYNdZHILeTASdtGYOWDeZy&IRBdSy&LANdI(,eXEYNeDYANeCrMJHOXeKrMLYITeHEYTeQAYdAORdtPYcIcY",
  "AYeMAQdQrMNOWCeDZYAYf;jKeJAYNeONcTYAYeFAMdDZAYetETePw2GHEYSfRATdSEYKeVEYZeTIWRe;rYeIWNdCYAWdAY",
  "NeYAYDePIWReKIWkpCCITr2~TVITHKUQzorjBEcEcCxBDxBEIcEbFEcyC>HrqIaJEdJEc$1LAbLAdMEcNEbJEdObPEcQAc",
  "REc>SE_U>YbZEmf>=PrjBEcEcCxBDxBEIcEbFEcyC>HrqIaJEdJEc$1LAbLAdMEcNEbJEdObPEcQAcREc>SE_U>YbZEmm",
  "o&o[%.AnLABo110b1b3b6b7c20b1aFbMc2aFbMc3aMc4b6b7b8e028BeB029c30b1b4_Q40b1bo!50b1box60b1b5b6b7b",
  "9c70b3b4b6_Q8o55b6b7e100-102hB118c20e120BeB12osc31rjf131CeB164c71c80b8c91e30oo_OrjbCd1o53rjbCc",
  "o!2ogohoj70b1d400oW1oW2oW3oW4oW5oW6oW7oW8oW9-VASg10oW1oW2oW3oW4oW5oW6oW7oW8-VASh50oob8b9c1o53b",
  "5b6c20b1box3o5o!4o55_Tobb9c6owb8b9co$om4b5b6b8d60o6b6b8b9_Xo6b6_Q34b7b8c40b2bowb8b9c5omox6o6d",
  "pA701 Ad2 Bd3 Dd4 Ed5 Fd6 Hd7 Jd8 Kd9 Lc-2 L2e3 L3e4 L4e6 L6h10 Wd1 Xd2 Yd3 )Wh4 ABBf5 BBe7 DD",
  "f26 EYYYh32 JEgpB80obmgo=(F%nAAmdU,4;5[Xmeyl[X~TMp? AEcs%BjBnv>DZ u!^~.1uDmhEZy9nd=^ezZ^&=^mi",
  ".7td.8EmkFwY u!m.LS zdjs%GjGnvs%GnumhHn;s%HjHwYnumcvGn,qS~LLS u&Z u&ndBELTls%$nBELTmh$n.0nABEL",
  "T~BEZH^~.0m_oY^~BELTmgOn;s%OEjLOSv_)WmQb[9.F%|^&.0~x.F=^ex9mds%RjTC u$uDmhS u!^~.0~BESy9nd.2]Y",
  ".fzZmf>s%YmdyMm_myM~YBILABIputamcDwZputamLrVRputambALVEOLqvtamc.Ztand.0~9=J;TuD~Y<<o.CYPRIOTn4",
  "rmJAb>>Oc>KrpLrpMrpNrpPrpRrpSrpTrpWAbEbIbOc>XAbEco[ZAb>>OmhIM,4IpuA.LAzu%b^r;Xk>;8nT($)eeENcW",
  "wZYg)9m?O~cPALMYRENE %b^q_Z;XiFT-,mFLEURONmj.rFLEURONmk($)gTENcWwZYmlNABrUEqG%kpxPHlpxPHfxZBwr",
  "kBwreGIMELfuNgxZHEiHEcWAWdZrffHwreTwrexZYODHkYODHexZKAPHkKAPHexZ$sDHm$sDHgxZMEMjMEM_Z;W,9QOPHe",
  "RwlexZSHINk;qko~($)flCRUCIxs ($xumj($xj|.<<<HATRqIpxPHfBwreGIMELfuN-RwllHEcWAWdZAYNeHwreTwre^r",
  "SAMEKHgAYNd,9QOPHe>;qko^(%xj|gPHOENICztALFdBETdGAMLeDELTeHEcWAUdZAIdHETdTETdYODdKAFd$pDeMEMdNU",
  "NdSEMKeA!bPEcSADEeQOFdROSHeSHINeTAUk(%TENcWwZYg)5zhl[rmo[^3;e|gLYDztrjbGbDbEbVbIbYbK_VbObRbSSc",
  "TbUbFbQbSbTTcANcENcLYcNNcCio^[W&4ko&MEROI?kHIEROGLYPHzu%ixC^d^ABAa-2ePr)NAa-2dEa-2eRAa-2e$($9H",
  "y&SAa-2dEc$1QAcTAa-2dEa-2dOcDAj=%VIDJa-2|pCURS!;%ixC^d^AsFMAcNAbEc.O$9Hy&;2q!SAkSEc$1QAcTAbEbO",
  "cDAjo]x(ELww[bSmd)5ykFmfLOGOyP RMTdIMNm(&?QgxpTYeIFTYf;|TYewvTYh>>)bzkzfxzwxzlzgx%wywIzQ[uxp[t",
  "IFTY ?6;|[twvTY ?5ewMN!I[u)8?5_8zimhzezjxvzimi!;zimj;~zimhwwzjwEzj(izi|.x)[bl[e[bSlze[bSmcxv[b",
  "Sm!;[bSmb;~[bSlww[bSmcwE[bSmc(i[bSmb?N[bS~l$6ROSHTHzpAi]z!|]vj>EbOgo^%Y;$vP.[mfqq%8$X>CrqJAc>",
  "(=,1AcZr$KKAdTTTy%AeVHAkpLBqvp4jCAUDAfvAmco]]suq)fk($TENcWwZYg)ax,mfo|,;u]d=LmtUf.XCw0sAmMA(b",
  "$piLOTUSfuP%&S|.o|)SSOUTH ARABztHEc$sDHgHwreMEMdQOPHeWAWdSHINeRwleBwreTAWdSATdKAPHeNUNdKHwrfSA",
  "DzGMEKHgFEcpxFdYNdDHADHEgGIMELfuNgGHAYNfTwreZAYNeDykwrhYODHeTHAWcwrm(%FIFTYjERzu!H~ONORTH ARAB",
  "ztHEHd$pdHAHdMEEMeQAFdWAWdES-2eREHdBEHdTEHdES-1eKAFdNOONe$6HeSADdES-3eFEHdpxFd!bDADdGEEMeDALdG",
  "HprfTAHdZpreTykeYEHd?WHeZAHk(%TENcWwZY~O<<&XItEEqIpxPHfBwrdHwrfGIMELeHIMELguNgHEcWAWk;$UDh%8Z",
  "rfeHrfgJrfeHrfgHwreTwreYODHeKAPHeXAPHe$6PHf$sDHgDyqEDHhTyqEDHhMEMdNUNdSAMEKHgrfdrffPEcFEcSADHE",
  "fQOPHeXOPHeQHOPHfRwleSH!bSHINfTAWkp1r2 pamlo](%xjmg,;=ieFLEURONhvPu^WITHz?u]mhT WITHz?u]mTd[e",
  "u]Si%(xYER~2pAAVESTqIAaAbObAOcNbANcEaEdEaEc,D!^KEcXEbYEcVEdGEbGEczGCEcJEcTxBDxBTTEdPEcFEcBxBNG",
  "EbYEcVEdEbYEcNEdMEcHMEdYYEcEcVEcREcLEcSEcZEcSzGZzGSHYEd;meHEjo[p1r2|gTINY [l~l=J[l~o$v[l~Y)5u]",
  "nD[f,.mm_b.;SnD)5.=,.~9)5.;nD[e.;S ,.~xINSCRIP?&,PTHzs%b^r;Xk>>((h?4|pHLAVI %a-rf-RwlmbZrffHwr",
  "eTwre^q-QOPHiNUNdSAMEKHgPEcSADHEeHINeTAWko^((h?4~xP;V?UPAHLAVI %a-rf-RwlmbZrffHwre^q-QOPHiNUNd",
  "SAMEKHgPEcSADHEeHINeTAWko|;9[9;axwndt]fu]mgpD((~2<o&)S[8KzvORKH)0AiYENISEI AaE_fIiYENISEI IbEj",
  "ORKH)0OaE_dOE_fAB_dAB_gB_kB_lAG_dAG_gG_kG_lAD_dAD_gDdEZ_dEZ_fAY_dAY_gY_kY_lAEK_kK_lOEK_jOEK_lA",
  "L_dAL_gLdELTcMcANbEN_kN_lwZ_jwZ_lENC_jENC_lENY_jENYdq6_lwY_kNGmORKH)0EPcOPcICcEC_dEC_fAQ_dAQ_f",
  "IQ_dIQ_fOQ_dOQ_fAR_dAR_gRcSbEScSH_jrO_lwl_jwl_lAT_dAT_gT_kT_lOTcBrO|g<o;>HU(bRzss&A_HEBcAMBdEC",
  "bNCcCScDcqLdEbCLOSE EhEEbFbGaYcHc!?EJbKcAKcUNKdELaYcMbNaYd,D(hOE_vOEmOEEdEPbMPcRc;sERiESaZcTbN",
  "TcTYcCHdUaUc(hUE_vUEmEVbZaScNToT;&USmfpCpNA_HEBcAMBdECbNCcCScDcqLdEbCLOSE EhEEbFbGaYcHc!?EJbKc",
  "AKcUNKdELaYcMbNaYd,D(hOE_vOEmOEEdEPbMPcRc;sERiESaZcTbNTcTYcCHdUaUc(hUE_vUEmEVbZaScNToT;&USmdo|",
  "(%F!.eTw2FIFTYf)9~YHANIFI ROH!LYA %isFTAbTAdJAcCr$$9xUDAbDAdRAbRAdZAc;1$3Lr)(3^AKINNA WAi^dKIN",
  "NA YAiNyCYAdVAj]yAb!|EbOh&0SAKINfNA KHONNr=;$HARBAHAYiTAykAe(3SSIkpH|p+o;RUMI us?S)bzkzfxzwxzh",
  "mhx,e,~hTzQDj[oSmm>YEZIDzpELIFeBEcPxBTzGSEcCIMcHIMcHIMfHy&XAcDALdZALdRrqZAcJAcSINcH!bADdDADdTA",
  "cZEcEYNdXHEYNfxUVA^%mfQAFdKAFcHAFeGAFd$pdMIMdNUNdUMcWAWdOWcEWcHAYdYOTdETj>tkyr&2MADDA &4izmr2m",
  "e>pP$pnjpdYO=.CIRCUMFLEX p4~oo&pF)SSOGDztpxPHfxZpxPHlBwrexZBwrkGIMELfHEcxZHEiWAWdZrffHwre^rxZN",
  "UN_A|.SAMEKHgrfdL?VrWrfmc,9xZSADHE_A~LRwl-rf-uNme;q_YTAW_A~9($)g?Qg)5zhmgx,mf%qrf-uN~To~SOGDzt",
  "pxPHfBwreGIMELfHEcWAWdZrffHwre^r;W,9Rwl-rfj;qdFwreLwllINDEPENDw0SHINmetkvC[ku~[gmcuIpalz0pak%^",
  "z0sLRwl sIk=qsO(%TENcWwZYg)5zhmg,;[e]cS^~vIdtUnimd[etUSniSmjyoni~r<o_)SUYGHURnCpxPHfBwreGIMEL-",
  "HwrkWAWdZrffxZHwrk^rSAMEKHg,9Rwle;qdLwlltku|_bvHmm,;BrM[esASeu]Sixw~To;tPRASMztpxPH_2pxPHlBwre",
  "GIMELfuNgHEcWAWduDv_WAWkZrffHwre^r;WPEcRwle;qk((~B<o]ELYMAzu%b^r;Xjz&Zrf-YODH|%pABRAHMInLs$qp",
  "$N%gr7(=,1r%d)VLLLAeRRAdNNNAmj]!BHATTI,zLU Ar=!^]vaRcLaLkw|AUmI.LAguP,;u]b[(u]k%&et[ sAmLOTUSm",
  "fo](&?S)auw;$)V]r|W)V;sEbOmm]z)V;sEbO|_)VLLAmipA($$OmiKAITHInM%er7(.Dy&HAeRy&NNAd?C,0]7]$w|r9",
  "(!p2ENUMERr0nW($;!l;9vP;9gq5eO[(Dq5m]z]vmipB($;$pf>>SO.GSOMPwYnCSAHdTAHdBAHdCAHdDAHdGAHdMAHd(b",
  "HeLAHdNAHdVAHdPAHdYAHdRAHdHAHdKAHdJAHd(,HeAHcEEHdIHcUHcOHcEHc&Vko|uvmlo_tEKMAnM%9Ac!|EbKpZGpZ",
  "(bAeCpZJpZ(,AeTTAr!AfDDAr!AfNNAAeTpZDpZNp0PpZBpZMp0YYp0p0Rp0Lp0Wp0Sp0HAA_iAb!^w~OImbO &ZgAU &Z",
  "h]sMAAYYAAh>uw;9uP.C%8LHAAl]!EImb%8VAAmfo~MAHAJANzprs$XCrqJrq(?.OVAcSr$RRAk;$(!p2;9%qSHRImkpA",
  ";jRADAnM%gr7(?^fLAbLAd]7]&r9AVAGRAHAi$NOMcuPp2;eiqLHI &2IGN (!]y(F&4hEXT.G;s]y&4kSUT.G&Z_i,yE",
  "|p;$!3sz|guwEKAMe;$SIDDyqmy(=pkC)lINUr0nX;8 &Z-1b2mj>INykA q!us?S)9~9pCKHOJKzpA_H!|w~KrqGAbGr&",
  "(dAbJAd>(;?ADAbDDAdy&(3,YBrjr&&6Sr%k]!!?UbxAqn]sNUKTAf;jDDAluP^3;g;9vP;ap2;$SUKUNmfo&>MULTANI ",
  "%i!|EbKrqGAb>y&>CrqJAbJAd>(.Dr!eNNAd?C,YBAb>y&&6Sr$RRr!k;9io_KHUDAWAu5w~KrqGAbGr&(dAbJr&(.DAeR",
  "RAdDDHAeNNAd?C,YBrjr&&6Sy%r!j;$qlmb]$xANUKTAf]rlo^uvmio_GRqhHAnNqmpblqLRABINDUlqqpQwAr7(=pR^f>",
  "LAbLAd>VAcSy%;2r!mf>tkBINDU sNGRqhHAnL(z>>wAra>>OMco_r6o[pLPLUTAk%pql_7qlmiOCALzuRRcLL|AVOCAL",
  "zuLaL~BpJGRqhHA uue)g;|jo[%i$1(3VIcPA|%o(pCNEWA %gAUc$XNGrrCrqJrqNYrr[6?BNrq,YBrqMrq^dRrqLrq^A",
  "Sy%;2r!j]&r9s$qpNUKTAfAVAGRAHAixZqlmhOMcSIDDHIguPtpGAP xYERkp2uvjO[(tsPLACEHOLDwj&4e>INSER?$nV",
  "SqLHI &3%pqlmj;$$Mmj<pFTIRHU=;ANJIe%gr7(=,0]7]%RcLaLkEb;sEhAIcOb;sOhr8s$qoNUKTAfAVAGRAHr;GVq6f",
  "p2OMcpHmgo(o;SIDDyq %gr7(=,0]7](>>xAs$qoNUKTAfSIDDyqmuP;fu]dsAmbREPETI?%&Zn|mfwX;8 &Znd[HDwZnA",
  "UoT)&SmgvJt[S|.RAY;OvJt[SjvPt[Sme[1t[Sm|j.;^~RAYSmj^XvPt[Sme[1t[Sme,^t[SmhSEPTUPLE t[SmgtU;ORA",
  "YSe[ewVSmcxvwVSmm|W?etVqAImlWO-tVqAIaImlqAUmg]zqAUaU~O<<>>MODI %gr7(=,1r%k]&r8qoARDHACqLRAmeuP",
  "p2;$HUVAjo[pHmbo_NGOLzssWmh;ABIRGr;vPsW|p[1sW|pBIRGAnt)&|p;AsW_7)&~2!3BIRGAant)&~9SWIRL BIRGAa",
  "n&_7)&~T[9SWIRL BIRGAnt)&~^<o[TAKRI %er7(?^hSy%r$RRAk;%]$w|r9(!%c$6mgp2o_uz<o;AHOM %lrqNyCAcTA",
  "cqATAm,YBr)JActGTy&.OSr,y%AbDrqyCqAGAmGy&By&Jy&qABAmh>>t%$(RAcLIGA?!RAmm_cA_H!^EbAWcObAIbM_wK",
  "z;ERlo]uxTENcWwZY_w=J;8mEuChRULAIjYMBOL VIj%8CAc[6LLAmdo)pADOG.G%er7(=,0]6RRAk](xAqo(!p1r0nTl<",
  "<o&o]WARq7CITzo(bAeAbWIcYUbAbOcIIcUUcEbObq6dyCKOcENYdYUJdUCcENNdODDdTTEdN[;eu0ATbMcBUcPUcHIYOd",
  "OLOcRRdrMSSUUdIIdVIYO|N(bAeAbWIcYUbAbOcIIcUUcEbObq6dyCKOcENYdYUJdUCcENNdODDdTTEdN[;eu0ATbMcBUc",
  "PUcHIYOdOLOcRRdrMSSUUdIIdVIYOmfux?RTYmbpDOMmcD!.S AKURU %dEb>>Ob>>$Z(,dTTAd>DDrrNNAd?C,ZYAbYAd",
  ".O]6LLAdZAj]$Eb>AIcOmpLqns$ykqhAm]sPREFIXv_NA;VnTh&8YAj!RRAk&8RAj;$(!vPDq5mGAP xYERkwX>pHmk<<",
  "o;NqLINAGq& %fRk>>w|r7(=,1r%dRRAk](>>xAqoAVAGRAHAiSIDDyqmy(=p_i,yE~l<pCZANABAZqv=9%9i]zIbUEcUb",
  "EbOEcObAIbUc.6Imd%Y%8$X(dAc([DZrrZy%AcoH]6KSSAlxZtz&4i;$]sszan&mhn&miqqCLU=j-!R%8RAmfx3^gVAml",
  "!Ry)mftgy)mf&0[5f;jDevOnHDl%^[5md!RvO-%&D y)~LtgvO-%&D y)~LSUB$O|po~SOYOMBO %9i]zIbUEcUbEbOaEc",
  "AIbUc]vbLmc%Y%8$Y(?[4Zy%AcoH]6KSSAl;$$NCLU=j-!R%8.OSy%A|gxZt!GbKbNGcDbNbBbMbRbLbSHcSb-Aml;%yDm",
  "dSUB$Oj&0[5f;jDevOnHDlPLUTAky)ndMOONnASUNnA[1F$smF$slN|%TER(Cpu&Z-1b2mlpECANpqNATTz.K H!]SHR![",
  "A_&PxCAmkPAU Cz?HAUnC,2$1Lr)u0ZAcVAc(cy%yC$9;2BAcCAc?A(3Py&RAcxUtGAbxCU_HIAcxZPbKbTbMbNbLbWbNG",
  "cYmc._ %]gElSqLHI yNhRIS!M?=mfSqLHI yLFINALmg?.%]gEa %^FINALkFINALmfMID-LEVEL ?,mcyLVq&qhmiMID",
  "-LEVEL ?=mi&C-xQ?.%]gEmeyN&C-xQ?=mkyLFINAL~L+o|BHAIKSUKI %fRcLj>w|r7(=,0]7]%RcLj>xAs$qoAVAGRAH",
  "r;uP^3;gGAP xYER-1b2mo~pK(&?RTYmbzhS UNIT &Z|.o[MARCHwUy)j&ZnHDj%8$0[4^BoHSy%r$Ai>>=s$0[4^B>^g",
  "Sy%r$Amg]!!|EbOm;$qnszmko&pASA.L GONu5Eb>AIcOb>r7(=,1r%dKSSAeJ(,e[Ek]$]vjo[Eb>AIcOb>r8qpNUKTAf",
  "CqLRAgykqhAm]sREPHAeA-KARAhpHmmo_GUNJALA GONu5>v~AIc>OOcAUc^dVAcBrqMAcKrq?A$(GrqDrq(3CrqTTrrLL",
  "AdJrqDDrr(c,Yy%RAcSAj]$>v~AIc>OOcr8qq]sOMco|uvmm+<o;MAKASARnC$3(c,2Br)?D(3CAcJr,^h;2AiA(fAf]z",
  "!|EbOmPASSIMBq6kwW;8mko)o|LISUnCYHAmdpGTAMIL x)?ezh-qL-[d|%)4-zh-qL-;|TIwrmmEz(Iwrj;|TY-xuTHm",
  "xpTIwriTzQTY-SEtvDmf?7Ez(IwrSk;|TY-xuTHSmh)5[dj;|TEwZH-1b2lTwZHfEz(Hk?7[dSk;|TEwZHSme)5FIFTHf",
  ",~hykF-1b2k?7,~SmcvaSCAL!MFACT)wKIIZH~Y;$NELdCEVITUgAAZHAAKKUjUZHAKKUhMUUVUZHAKKUlKURUNIgPrZKK",
  "UiMUKKURUNIjKAACUfPANAMeONdVARAAKANiPAA.LgKUZHIfVELIjWwoCULTIVr0nYDRY CULTIVr0nYLqLnQ;VT PANnU",
  "[EDI?&CREDITnS($;!mluHTnTqMODDnTSPwZnRTOTALnRz?POSSwmIONnTg=i?!FROMnXIGN MUTykIYAjVAKAIYARAAmd",
  "pE,;wWTEXT~BCUNEIxsnLA^^BADdyAy%IGIdLAGqvy8kMUSHeSAGk2bBa ?y2eDUN3 y8jGALbN2 ?Pjy%z)h(CeLAGABf",
  "SHwlf[w[wUmjy8foqBALAGfyAMv%ENk;j3e=|mbDbK^[ERIN2fSHITpTGISHmlL^[ALcDIM2eG!hy%KAD3dIcSzGUSHkAN",
  "cEPHeMAR^|mbN^;ANh?7TIMESlPLUS NAGA )vANnENAGAmj=cmg;meP!bRAD^_mKABe;V2dHa ZIDA ?PjKABA ?Pj)=",
  "rO TUG2nDTUG2 TUG2nDTUG2 PAP~Y)=rO^(rOnDrOnDrO~^2bGABgBAaDbG3cHAR2eL^;BALjAGdRaA2eI^^GrMz)me]U",
  "BU ABcUNkt~BUmLUG^;BULUGmcRa2eDAaGa $gpTMrOkMAReBALAGeIcGA^=MrOlIaR2dUDdy%IR^=LUkKAKdLAbU^=MrO",
  "2lMdNEcPAPnEPAPmSIc=|e[%GIR2lSHmgMbRaA3b4eIaBbM^|k2cNa $T U y8 u,miSHd]UDUhy8e;piB^[wl2l2cGaUD",
  "dHbNa3^)^)l4cR2eE^[PAPj)=E NUNnDNUNmi2^]HpTDAmfGrMMIc;VczGUjD!bGIRdLbN^[GAN2a ?PjME_6ENl)vENl",
  "=cjRENcIN2eSH2dZEN^[A^=LAL^[LALmhNcBADdDUN3 y8^)mcHA^)hz,a =cmbU3dLAaL ?xLALmIbUcU2bDmbGA^)f2",
  "^]DpTHAky%IGIjB2 ?PnETABmeNbSHa2nEGALmbBADbRnERAkUR^=RAlDAbIaM ?x;mmUBdEL^=LAjN^[x~mgx~hRcIa4",
  "^=AiR2nESUmHpTL[wwl2mgL^=LAkInELIjUB2ez)h;iH[wrOmiKAKbSKALfID^=LALlU3nEANl$(Mv%ENjIcNUN^;NUNm",
  ",2;VbRcHE^=[8kIDdUMd=|eUaD^=DUme)=GA2kBA^(GABAmeD^;GAD yBmlLa x||pAMdMbNa2a ?Pe)=GAN2jt~GAN2me",
  "Ra3c;jNfwlTIN^_meI^[EbUht~GIm4^;GI4_6GI4mcDIMdR2^)g3^]IGIkyAIGIdL[wIGIlPAl;VcH^(GISHmb?zd=|jEN",
  "UiU^(GUmoqKAK^[z)mgNUNd;VnETUG2mhy8gD^]KURkKURj)=GUD LUGALmeLbM^|lRa7bUNbSHgHAa ?Pey8fLcIa ?ya",
  "2eBADdD!hGADdK!bNUNdSzGUjUaBoqANcykd$TgL!hUDlL2eIa AcBbDIM^;IDIM BURd=cmjGaIa DIBdRIc)=IGI SzQ",
  "nDSzQ UDnDUD~2y8hL^[x~me2cM^[=|kt~IMl)vIMl=ci!bNbRbSHdKA^[AaD^=KU3kSH2eBADbLAGdRcIcERIN2eSH2eG",
  "AaLbN2 ?PhR^=;j3nEAmhIaR2c;iSAR_6GISHmfUaR7eIGIcMcKAKcIaDdLIbUcME^=DUcGIcTEjI^=NUNUZmbNEbUNdPI",
  "cRUcSAaRcHAbEbIDcUcIGcUHURfTrMUa2bDbMUM ?xPAmSHdZIj2^(KA2mcBbDosb4b5^;KAD5mK^[z)meLa ?zjt~KALm",
  "cM2b4cSKALa $o[v$oU~T)=$T $o[v$oU~_wl2eIa ?zdUaDjDbNb;VcHbIM5^;KISIM5mf]UzH2 K[vzH2~x3b4a Vq&",
  "qh xsmc7bL^)gNbRa )vKURmc;x2fWU318gLAaGAB^[A^=DpTHAkGrMLALjLbNbSH ZIDA ?PmbBADcIcDrMENcGAaRcUD",
  "^=GUDmHAaLcI ?xNUNmz)hM^=y%LUkKIaNcU3bL^=HInEAmgLAGABeISHdUaLdME^=ENjUSHeNEcSHv%SUMkITpTGI;iER",
  "IN2k?PmgU2^=;x2mbUMdTAGbK4dv%pTS[wNA|gU^=Ab[wUmc2nErOkDbSHj=cjR^|^=SUMmgy8^;LAGqvy8 ;m|.H;xeL",
  "^[LALlM^_^=RUmiIaLbMMU2eSHdUa ?zkoqALcBADdwl2a ?PjyAHI ?zmIMcKADos^?mIcLpTrOjGABfMv%ENkNEbUcSI",
  "nErOjK2nEBUmTUG2jENUet~LU2m)vLU2m=cgHwlIGj3bGAL^;LUGALjPPOS!MLUGALmc;plHbLbM^;LUMa yB|gMA^[=|k",
  "y8f2bHbRbSHa2eEaScIaNc]UMUiG^)gNSUBeRGU2eSH^^KURdZAi)=MUSH^]NA|gt~MUSHmc3^[A^=DIjDIiy8kNAa2bGA",
  "a IN]8TEDi?x;x ?Pmc)vNAGr=RdM NUTz;UjMa2dE^^UDi;pjI^[Ei2bM^[x~hRnEx~|pNDAoqANbSH^?mGUDdMv%x~mf",
  "NEbUNd;m^=A ANdSH^?mj[%rOkSH_&AGeUa11cNa LAGqv?xGrMMrOe;V^;NUN LAGqv?x;V|.USHmd?Pe)=NUN_6NUNa ",
  "LAGARnDLAGAR~LUZa AB2 ?yGABgBIcDUGdGUDdz)iKAD3e$(NEcSILA3fU2m$gBIa UmlPAaDbNbPcwl2eI^[AaBcBIbU",
  "cEbIaBcUa2_6PImRIG^[KALdUDcZAi)vPIRIGmiRAaBcIbUcSAaG NUTz;UjG^^DUaBdy%KAKcURdLUMdMIcNUNd;VcHID",
  "eTABdU2bBbMbRbSHj)=SAGiy8gLa $orO2mg(b2eRcHAa3^^BADdG!hNEc;x2e[8dU^=Ame6bB6cR2dEa HUc)=;m x||g",
  "TABnDTAB yB~9G9cNbSHa2b$pgID^^IMkM^^BALcULUGfD!bGrMIGI^)iKU;x2gLULdMUGd;VlNIGdRa ?Pe)=SzQ BUR",
  "nDBURmmTAd]U!3;xmg2bBURfI^)fGa4^;SIG4 ;x2mfK2cLA3e]USUiDa2cHURdMarOeRa9eTAa rS?xHIcMIiy8fB^;TA",
  "B NInDNI u,nDu,~2=cjG^[BIcGUDd;mbUdTUG2eUDkK4cRcE^)gIa ?PfLbR^[=|k)=TIRa x|~iUaG2cKbMbR^;[8 ZA",
  "nDZAmlUa GUDdU Ud)=U PAnDPA yBmlSURnDSURmU .5nDU .5~22bBbDa KU;x2g?zdMIc[w[wU^)|py8e;pa ?zmgUG",
  "dM^[LAGABfMv%DAk;j3eUiB!bUM^[$TgPAmN^)gR^(URl;pi2^]y%NAiLcy%NUNdU2^?dBImg4bIa3cU^[AaSHGABgBrMD",
  "UNdGAaLbN2 ?PhRcUcy%IGIcMbSHdKIcLUMdM!b,2;mcIG4eTUc[wGUDjDbRUDAmDA^[UmSH^^KUaRd=|lXb2bUMXfTUKI",
  "eZ3^[$TmcUdZAa ?Pe=d?xKURmgGbMXdE2cI^;ZIi3bBa KABA ?PlGbZ2dUa5^[AjBURdMdKAP E$pITElAB ?xNUNkop",
  "AkMqv?xKUGmcDAG $g[%MrO|p3dI;i;xmUB ?xSHxEEZwU?xGUDdSHxFGAopANnEKAKnEAmfSH2mbE22dIGdHUSHeKA ?x",
  "AN;meSH3eGISHdUDdzH2mbLUMd,2;xLeTUcUR2m$oGImbU2 ;p ?zmf?xwl2nELALmb;xmbMwldUSH3 ?xZr=NA4cINa9b",
  "DAopBALdGImcU11 ;CPwl2 rRmbIR2eSAx^z)mgTI2dUM ?xMEk Uio&o;NUME.9nL[erOgzerOjxvrOh!;rOi;~rOgww",
  "rOjwErOj(irOi?7u,kxvu,i!;u,j;~u,hwwu,kwEu,k(iu,jxvUf!;Ug;~UewwUhwEUh(iUg)5yF_byFizeyFlxvyFj!;",
  "yFk;~yFiwwyFlwEyFl(iyFk)5GE;x_bGE;xizeGE;xlxvGE;xj!;GE;xkTWOnJ2ize;jRormmxunJ2j!.nJ2k;|nJ2iwv",
  "nJ2lEz(nJ2lN!InJ2k)4nJU_b;jRUize;jRUa Vq&qh xsmmxunJUj!.nJUk;jRopGALnED!h(Cmm)5BURU_8BURUhzeBU",
  "RUa Vq&qh xsmlxvBURUi!;BURUj?7]2wl16c21mmxv]2LIMMUa4b rj|g;~]2rO9miww]2I(C3b rj|gwE]2USSUa3mm",
  "(i]2z.MMUa3b4b A|p[erPlzerPmcxvrPm!;rPmb;~rPm)5BAN2_8BAN2hzeBAN2kxvBANormj!;BANormkNIGIDAM!bwl",
  "j)5E;m3_bE;m3j)5TzQD u,mc[oS u,mdxd;|THS u,me)5TzQD ]2Amm[oS ]2A|g)5Ez(H rOk.ArOmcLD ASSYRzs)5",
  ";|THf,~mlNE .AGURlylGURmE$pITE )5TzQDj[oSkxpTYeIFTYmbxv[xmg!;[xmh;~[xmfww[xmiwE[xmi(i[x~T>,.nL",
  ")SASSYRzs^3DIVIu2|g]athmcuethf[HthiQUADth~9pApLAB ?xNUN ?Pi;x2mD ?xwl2mbBAD ?xD!g?PmfHARopAB2d",
  "NIcZr=[vBU ?xNA2miDA ?x=|lx^KURmIM ?xIGIdU U UmopUDmUx^AN;meSHa rT$)lDINcUNdERIN2fGAbIaR2 y8hS",
  "HeHAbIcz,fURb;x2^=$TmgLAK-020fM^_mUHnEGISHmbMrOdEScIcNIcPIc;mcI y8mfEopKURdPAPlRIN2 XgSH2 t~wl",
  "2mfZwU;p ?ydHIcz)iLAaLdMEaSdSUme?xSUmbGAopBAHAR2gDIM y8hUx^z,meERENeGAaRnEDIcNElHpTAjKUSH[%$Tm",
  "g$p^_mUHdMUSHeNE^=E2cGIkSHIMeZIZ2mBA ;B|pwlTz??xUmc!g?xG!gt~GISH|.Uopz)meDnEG!g?x=|mmHA ?P y8l",
  "I ?ynDzH~LKA ?xBUc$1U U UeRl$oZ[vZUmiK-003c21b5c30c50b1c62c79nDLAK-079 y8mi80b1nDLAK-081md92d1",
  "30c42d210b9c20b5b8c38c65b6d343b7b8c83b4c90d441b9^[GUcIGIdPAPnELU3d,O[%BAmh50b7c70c83c90bosb5d5",
  "50d608c17a ?ydBADdDUN3 y8 y8mcKU3d$(TARcEcU2bDbRUDr=36c48^[DUBdyCIGI^)iNIcPAPnE,O;m;iKImbUDbRU",
  "DAmd724c49gU2 y8 ?ymc?xD!hykdPAP^=,O=|mcMInEZA7kUSHnDMUSH ?xyCKAKmmNINDAopDIM y8iGISHdULdHIcK",
  "wl2fLAK-050hMrOePAPnEPAPmU^=UhRUDAmgSAG y8 ?xHr;?xENc;m rT$)l=|mbHA6 ?PhEnD;miPLUS HUB2eNAM2eS",
  "ARk[%DUx^NImEopANmiI ?x=|mb=|nESAGmUM ?xyA?7u,miUR2 IN]8TEDi?xUDkU ?xDARA3fLAK-668gU3mbZA7c[vZ",
  "[wSARmf5 ?x?7D!g?P~o++n^o&pDY,z-(COqJCM00omo!10b1b2aBc3b5b7b9c21box30boy0b1b4b6b7b9c5oab8b9c6",
  "o6b6_Q7o8aBc6b8b9c8of9o54b5b6_Od10o8_R0b2b4d301b2mlpEEGYPTzsHIEROGLYPH AoZ_Gc1o7_Mc2og0b1b2_H",
  "oy0_H1b2_H3_H4b5_H6_Toj70eBoZ_OeC001b2_Eoxok_So6eDo0_N_Xocc30b1_Hosb4_H5b6_Q4oa_H7b8_H9c50_D1b",
  "2_H3b4_H5b6_Q6ob_CHfEo0_NaAd1oa_Ic2o3_Nc3o6_H6b7b8eF001_H2box1o5ou_So4_Q3o4_Lc4o5ov_Ic50b1_Eos",
  "eGo0_H7_F8b9c1o4_So3_Ho%3oa_Ic4o53_H4b5_H6_To6eHo0_H7b8eIoZ_P10_H1_Hosb4b5eKo0b7b8eL001b2_How",
  "_H7b8eM001_F2bou_R0_H1b2_CHcov_Ic20b1b2_H3b4_H5b6_Nc30b1_Hos_Fo!40_HoneNo11obb8_F9c2o93o53_H4",
  "_H5_H6_Mc40b1b2dLoZ_Rocc20eUo110_H1_H2bow_Nc20b1b2aAgO001_H2bovarjbCbDbEbFco%10_Eoo_P20_Hon_H5",
  "_H6_P30_HomouarjbCbDco%oz0_F1eP001_H2bou_R0b1eQo0b7eR001b2_H3_Fo!ok_Ho%2odeS001b2_How_Ho%1o6_F",
  "5b6_Mc2oa_Gc3o94oaeT00omou_LaAd1o4_Ho%2og0b1b2_HoueUo0_G_Xo5ou_P30b1b2_Hoy0b1b2eV001_D2_Howb7",
  "_F8b9c10b1_E2_Fox20_CHbIbJbKbLcomou_NaAd30_H1_H2bou_Mc40aAfW00omou_P10_Hon_H5b6_Lc2o6_H5eX00on",
  "_F5b6_H7b8aAfY001_H2bowb7b8eZ001b2arjbCbDc3_F4_H5_H6_Ro8_D6_CHfAAo0b7_F8b9_Xog0b1b2f>]a$Omdz6",
  "$OmfINSERT rT?^=iTjsh=iTm?^ENDhshENDmi)[ MIDDLxFsGSEG&!mbEND SEG&!~O+++++++n^o,o|ANATOLzsHIERO",
  "GLYPH Ao1ok_Soa_Ho%3oe40b1_H2bov_Gc5oioa_Eo%o$oa_Ld100_H1_H2_H3b4_E5_F6b7_E8b9c10_Fomov_So93o9",
  "ozojo$odd200b1b2_Fow_MaAd1o5ov_Ho%2occ3ohoiocc7of8oe9o7_OaAe30oeoloe30b1b2rjbCcow_Eo%ozoe6o7_N",
  "c7o4_Q80b1_Hos .G)wRIjAc4b5b6_Ho%9o53 Ez(h4b5b6_Od40of10 sGLOGOyP &4iA END LOGOyP &4ioo_Sogoh",
  "o3_Mc6ofo$obd50omoxolog0|g**+o)pABAMUMnCPHASE-A (fUE MFONkGBIEE FONjP)0MF)0PIPAEMGBIEEfBAmfNAA",
  " MFONi;xEN;xETkTI=;MFONjNZA MFONiSHINDA PA NJImbP)0PA NJI PIPAEMGBIEEfBAmh&VMBGBIEEkTU &VMBAjN",
  "Gq6Ug&VMVEUXgNS[&gVE[&(bMkSEU(,MhNTOQPENhKEUKEUTNDAkNK!GgSUUd(fUENZEUMkLAPAQewoKUThNTAP MFAAj",
  "&VKEUPhPA;jEgGHE[&RAEjPAM;jEhM)0(e[&TmNZUN MEUTjU YUQ NAEjGHE[&GHE[&mNTAP NTAAjSISAeMGBASAfEUN",
  "JOMNDEUQlOOMPUQhKAFAePA LEERAEWAlNDA LEERAEWAmPETd&VMKPENiNIKAePUPdT[&PfL[&PfSONJAMgTEUTEUWENj",
  "&V(]gKETdNDAA(e[&TmKUOQeMOOMEUTh;xMeLOM&VgFIRIeROMdKPOQeSOQdMAP PIEETjSzQAEgNTAPe;rQ N;xT YUMm",
  "c(]T MO(fE[&QmdPAARAEgNKAARAEhUNKNOWNh(eNf&VSIfNJAMeMBA(]gNYETeTE[&NgSOTdPAAMeNSHIEEg&VMe(]dKA",
  "QdN;jeVEEdLUcNENcAQdMBAQgB N;xETgTU &VMGBIEEmSIEEdwoTUgLOM NTEUMjMBA MAwPEkKIEEMfYEURAEgMBAARA",
  "EhKAMdPEwlIgYAFU LEERAE^D$p N;xT (,MmcNTIEE ;mUOQlDU NJAAiGHEUGHE[&MlPITdTU NSIEEiSHwoNJAQg[&Q",
  "TUjMF)0TE[&QkBIT MBAAKETm(] NTEUMjKEUPUQgGHEUGHENiKEUYEUXhLAANAEg,PUMfVEUMe(f!G MVOPkGEU MBUjW",
  "[&TfSAKE[&hTAAMeMEUQeNGGUOQa $umMFIYAQgSUEdMBEURIf)lIEENi(,E&VhPU(bAMhMEUT (eETlFEUXeMBUOQfFEE",
  "dKE[&Mg&PNJE[&NAgUQAiLETdNGGAAMfSENeMAcKIQdNGOMgC (fUE &VMBAlZAdYUMdWA(fUOQi(eNeDE[&REEiGKAQfG",
  "HARAEgMBEEKEETiGBAYIf(]R MK,QQ MEUNmeTU MBITiMBEUMfPIRIEENhNDOMBUgMBAA CABBAGE-[GEmfKEU;m[&PkG",
  "HAPeKEUKAQgYU MUO&VjNZEUMfMBUEeNSE[&NhMBITeYEUQeK,QQfp0SEUXeNDIDAfTAA;jEhNJUEQfTI=;YUEiS[&TfNG",
  "GUAwU(,MmVEUXeNANSANAQi&PKE[&RIkNTp0GGUONgLAPdMBIRIEENhGBASAQhNTE[;BAiTEUTEUXhNGGUMfFUEdNDEUTe",
  "SAbHAQfB[;eVE[&PENiMBERAEgRUcNJAEMf$pdTIT[&PhNSUOT NGOMjJEEEEgKETdNGGUe&VSIeB[&MgLUcKUTdNJAMdG",
  "OMeWUPdNGGUEETgSOMdTENeKUOP NKAARAEmNSUNdDAMe&PNSIEEiYp0NDAPe;xEQeETFONgMBIcAEMBAfBA(]gKEUSEUX",
  "hMBEUXfKEUMeMBAA PICKETlYUWOQfNJEUXfMIEEd[&eSHIQeKwULAWdFATIGUEl(bQdAQdLIQdPINcw2TETfD MBUOeWA",
  "PdNJIdMFONeNJIEEfLIwBNJEUTeSHwBGGAA&VhYAMeW[&Nf(fUNfSHwB(fAPfKE[&TMEUNkTEUTe;m[&gNJAPeSUEdKETd",
  "YAEM&VhKUOMeSAPdMFEUTfNDEUXfMpxERIgEUTeSE[&QgYw2NJE[&MhKEUOT MB[&l(fEURIhTUcGHAAe(fYEEgFEUFE[&",
  "TjNDwBMGBOFUMhLE[&PgNDONeMONIdGBEUNgPUUTeMGBIEEfFOdLUMdNSIEEPgMBAAeKWAETfNYETeTE[&NgSOTdYUWOQf",
  "KEUMeRAEMeTEEEEf(fE[&QiMFE[&gNSIEETgKEUPePIPcEUTAEgNYUEeLETdNGGAAMgMFIEEfNGGWAENhYUOMePAPdYUOP",
  "eNDAMdTEUMfS[&eKUNd(eUXeKIEEgTUOTeMEUNeKUQdNSUMeTEUNe&VNJEThNGGAPfLEUMeNGGUOMf;xTeJUEQfGHE[&gK",
  "UcRwUOLDhTAEcOQd(]dRIIdLEEEEfMEEEEfMbSUUdMUcSHIIcEUXfKYwBNUc;xdNTwBPEEdNIc;rQePUQdMVOPeLOQdRwU",
  "MUCHiTIcNTUUeMBAA SwvkSAQdFAAfE NDAPeTOONeMBEUMfLAPdVOMdLOONePp0SOMdRAQdN;xOPfDUNeP[&eTAMd(fAe",
  "KPEUXfWUOdSEEd(e[&TiPAAMeTOOdKUOPeLOMdNSHIEEfGOPe&VMe(fEUXeOQd;xEfRIMGBAgNJEUXfPEEMeSp0NGGURAE",
  "hMGBAeGHEUXf(fE[&MhJAEMLIhMAPdLOOTe(eEEEgDIQeTAwUNTEUMkSETdPUMdNDAA SOFTNwmmGG[&;jE (,MmdYIwBG",
  "HEUNfT[&eYE[&fPOcTU&VfKE[&fS[&NfTE[&QgVE[&fWEUXeLAAMePUcTAAQeGHAA&VhNGEUREUTi;m[&QhMGBENeBwBNZ",
  "AQdKOMeGBETeTUMdKUETeYAPd(] CLEA]8lYITdMFEUQfNDIAQfPIEEQfYUEQeLE[&MgFUEdGBEUXf(fUPfKETd&Vd(fAA",
  "MIhGHETexUNTUMePEUTeYEUMe(e[&gYI BETWEENkZUQePOONeMIwBFUETeNAEdM[&eGHE[&gFU IeMVIdPUAQe(fUMfKU",
  "TdPIETeNTAPeYE[&TgNGGUPfPA PEOPLEjFU Cp?gOMdNJwBAbTOQdObIbLAQdPA PLURALjTAAbQdNDAA MY HOUSxESH",
  "IQeYEUXeNG[&fY[&NeOQ SWIMM!LiC);iUQbNdKEUXePEUXeNJEE EPOCHkPUEdWUEdFEEdVEEdLUcMIcREUXdAEdNG[&T",
  "eAd;raQeFU REMEDYj(3PIcLOQdKOcMENcAaQdTEUdKIcMONdTw2FAQdGHOMgF $1UbKUcv~REEdTAEd(]d$(RIIbwBMEE",
  "EEfTp0NDp0JAEMfMbSUUcHIIdIbEUXeKYEEdETdN[&dUbJ[&fYOQd;xd^dN;jePEUXeNTwBWUEdPEEdRUcNIcREUXeKw2",
  "(fWAENfGAe;rdP[&eFOMd^ALIbOQdKOcMBENeRw2MAbObBAAeTETdKPAdSAMBAfVUEQ|go|MROnCTAcNGIdYOcMIMdBAc",
  "u0AbPHId$6IeHAOdDAIdCHUdKEAAEfOLc&VMeN!b,2OOcObROcSHId?WAeEAc^AEbKOcLANcr!IdRIcTEKk>uvjo]q5eO",
  "[(Dq5meTq6SAnCO^$A^$V^$E^$I^$U^$AWZbCbQbXdUIZbCbQbX_YNGi%^UEXi;sUEZdAWXjUECbZbQbXcIUZbCbQbXeM",
  "^$KrqyC(c;2^d^APr,Py&Br)Nr$$(HTAd?DRAcNy&Sy&CAcTSAdGy&HTTAeTy&XAcxUDy&tGZAj>uvmfo_BASSA VAHnCE",
  "NNIe$1SEcxUMBEdYIEdGAHdDHIIeKPAHeJOcHWAHe^AZOcGBUdDOcCEcUWUdTOcBAcVUcYEINe,2WADDAfAb,DUbv~EbIi",
  "pJzLMID ?,i&C-MID ?,mHIGH-&Gmlx?mhpBPAHAWH HM)k ]yKEEBbVdIBbVcAUBbVdUBbVcEBbVcAIBbVdOOBbVdAWBb",
  "VdUABbVdOBbVcIABbVdABbVcWBbVcAABbVktzVAUdNTSAUfLAUdHAUdNLAUeRAUdNKAUeQHAUeYAUdHLAUeMAUdtEUeNtE",
  "UfHNAUePLHAUfNTHAUeAUdAUcXAUdCAUmb&0CIM TUBdSOcKEScHAVeSUAMeHOMdTAUM_wVOS THOMd;jB CEEBmcCIM ",
  "tHEMjVOS THIABfFEEMiXYEEM NTXIVfRHOdTOVdFAIBkVOS SEEViMEEJ SUABjVOS NRUAiIB YAMgXAUSeCIM TSOV ",
  "ROGmfo~pK>($TENSezhSi?OSmbMz;IONSizh Mz;IONSme?NBz;IONSlRz;IONSme>;$VOS LUBhXYOOeHLIdTzQD-STAG",
  "E HLImdZWJ THAJiHNUBeNQIGeXIABeNTUJeAVcTXHEEJ CEEVlMEEJ TSEEBkTAUdLOSdMUSdCIM HAIS LUS NTOG NT",
  "OGmgCUAM T;rOJlTXWVa CHWVjPUB DAWBiN.X TOSmfo^CLqJT;mEJgYEEGeLIScAUJeXYOOJfKOOdHAWJeMUASeTHOJd",
  "SABePHABe$6BeyqdVAJdFAJdYAJdTSWBeKWMdVWJ|p++o)MEDEFAIDRz?s&MbSbVbWbATIUeZbKPcPbTbGbFbIbKbAbJbE",
  "bBbCbUbYUcLbQbHPcNYcXbDbOEcNbRbObAIcYme=PMbSbVbWbATIUeZbKPcPbTbGbFbIbKbAbJbEbBbCbUbYUcLbQbHPcN",
  "YcXbDbOEcNbRbObAIcYmcux?T_1TEENmduq)5qBmg[eqBmfzeqB|ptr=%AIVAlEXC$pr1OH|go&o.IAOnC,2BAcYI PAfP",
  "LAdMrqq!MAkxUVAbFAd?DYI TTAcAfTTAdDDAdNrqYI NNAgq!NAkNNrrLAbYr!bYAeTLHAeDLHAeTLHYAfDLHYAf$3YI ",
  "KAfQAbGAdNGrrq!(bly%XAcGHrrTSSAeDZZAeNYrrT;jeDZHAeYI T;jeDZHAhRExsv_TSHr;Sy%SAdZy%;jeTSAdDZAdY",
  "I TSAg;2ZAb;2ZAbSAeq!ZZAlZZ^dSYAf^AAHcHy&BRIdSYIdDZYIeTEbSEdRTEk>>pLtz(FsA|%%8NA;VIZr0mh;$ASPI",
  "Rr0kRExsv_VOIC!PASPIRr0mm]zAaAbHHcNaGd,DWOcWbEaNaGdOEYdIaAaNaGdObEb!|NGdUaAaNaGdUbEIcNGdYaIcAE",
  "aEdERRd;KERRlERc;KERkAIcEIcAUcOUcNaGcUOGdYUIdOGbERdVWcIGcEAcI)keUImbo|?..ef?^.ejpak%8?,oGb7b8g",
  "RExsv_?[om4b5b6b8|%o&Tq6UT !!NU;x !ymi)SCH!ISE z0&Zj!y|pKHITqG=J;5xYER|ppCVIETNAMESE qAREAu(&0",
  "CAcNHAY~l*n^pFTq6UT tjPONwZ-o1ologohojo$odd1o2ogohojo$odd2o2ogohojo$odd3o2ogohojo$odd4o2ogohoj",
  "o$odd5o2ogohojo$odd6o2ogohojo$odd7o2ogohoiobb8mi**++++o&o)$V%8(CNqG?[osb4b5b>7b8gNA;VIZv_?,oAb",
  ">7b8ml>q!E|gzR%cYE|gwZAIGANA %9n|bWOeIn~dUoAdEoGdOn|dKAoFcKEeIoDdUoCdEoBdOn|bKIfSAoDdIoBdUoDdE",
  "oAdOoCeTAn~_0n~bTOeEoB_OdOoBbRAfNAoB_OdIoCbTEeUn|dEoBbKOeOoAeHAoFeIoCdUn|dEoCdOoDeMAoC_0n~dE-",
  "omMAeOoBeYAoAbYOeUn~dOoBeRAn~_0oBdEn~dOoBeWAoAdIoAdEn~dOoCeN-MU-MO-1b2|pIRAGANA %cWU|p$V%cYIbE",
  "cWU|p<<pEzR%mWIbEbOmm<>$V%mWIbEbOcNml++n^o(o=DUPLOYqIHbXbPbTbFbKbLbBbDbVbGbRbP NdD SdF NdK MdR",
  " SdTHc=HDHiDHcKKc=HJhHLcLHcRHcMbNbJbSbM NdN MdJ MdS JdMnikNnikJniaS !TnApfeSnia sJeM SdN SdJ S",
  "dS SdM N SfN M SfJ M SfS J SfJ SnikNa SfS Ta RdPa RfT SbR SfWaHb RdS NbMdK R SfG R SfS Ka RfAb",
  "=HOWiOAcObAOUdIbEbIEc;sIhUIcv~=HEHiRO&XzsIk=HEEi%^IgYEcUbEUcXWcU Nd%^UgRO&XzsUkUHc=HUhOOHcWbUc",
  "WAbObIbEIcOWdNASpuUbObIbAh,4Nz?ANbMj=HENcANcONiVOCALzuMmeo^AFFIX $,z9mkMID z9mj.fz9ml&D]jmhMID",
  " ]jmhzK]jmir3SECqhg%ISECqhmiTq6wZfILeE zZgI zZgTq6w0zZmjo[zKpjfTz( pjlySf%^ySku]dtUg%&eWAVEe]9",
  "mbo|&DpjfTz( pjlySf%^ySku]dtUg%&eWAVEe]9iq)mdpL(^uATHICKnCSwPC?~mjvP&3,;tONOOK x?~l;rRTHqMxsAT",
  "nC);LAPmcC)lINU!M);LAPmgvbSTEPj[?STEPmm*++<o&pDZNAMENNY tk&0yO;S)1~ONIZKO ;S)1mlTSA=;)1mbyO)1m",
  "jNIZKO )1mbSREDNE )1mcMALO ,u)1mi,u)1mdVYSOKO )1mcMALO ,u;P~O,u;P|pVYSOKO ;P|gyO;S)2~TNIZKO ;S",
  ")0..TSA=;)2mcyO)2mkNIZKO )2_&REDNE )2_.)2mj,u)2meVYSOKO )2_.;Q~T,u;Q|%VYSOKO ;Q|pTSA=;;R_.;Rmk",
  "=lNNO MALO POVY;mmi,u;RiT.NNOmdVYSOKO ;RmeMALO ,u=lNNOmiGORAZDO VYSOKOmcZELOeONcRAVNOfTIKHrbhB",
  "ORZrbhUDARKAgPOD]8TKAjLOMKAfKUPNrbgACHKAgZEVOKfSKOBAfRAZSEKAhKRYZH )1mg>>TONpuRq6E &0MRACHNOhS",
  "VETLOgT.XVETLO|p&0ZAu2ZHKAjDEMESTVENNY ZAu2ZHKAmjOTSECHKAiPODCHrOIE^~]l~OCHrOKAa POLNrbmdOBLAC",
  "HKOiSOROCHYA NOZHKAmdTOCHKAgDVOETOtOxGATTACH!M]aOMETml&0uJOMETlKRYZHk&HTONpuRq6E !H~iPRIZNAK ",
  "(FLEVEL-oshDIREC?%FLIPmcKRYZHfROGmipANEUME KRYUKa TIKHYl,QKLITiDVA V tHLNUmKLYUCHgZANOZHEKi=kI",
  "TSAa S OCHKOMmf,4EVODKAa (6mm=kITSpUSOROCHYA NOZHKA~BtHLYUSTKAkPALKAfZAPYATrbjGOLUBtOK BORZYfT",
  "IKHYfMRACHNYhSVETLYgT.XVETLYmhVRAKHIYA ,zSTrbi(Sl$k ,zSTrbi(S~Tv6me.6tHLYUSTKAmhu2BITSAiKyqILO",
  "hCHrOKAhPODCHrOIEkSKAMEYTSA (SkIKHrbmfDEMESTVENNY KLYUCHmgSKAMEYTSA $k SVETLAYr;(7Vrb TIKHrbmh",
  "DVOEtHLNrb ,zSTrbiSVETLrbi(7$k~YLOZHITIEa S ZAPYATOYkZAKRYTOEi;RmhKRYZHfROGdFITAeKOBYLAgZMEYTS",
  "AhSTATYAa S ZAPYATOYiKRYZHEMhZAPYATOY I KRYZHEMmgKRYZHEM I ZAPYATOYmiZAKRYTrba S ZAPYATOYmiS R",
  "OGOMfDVUMYA ZAPYATYMImeZAPYATOY I PODCHrOIEM~OPOLKULIZMYkSTATYA (6mhRELA ,zSTrbiMRACHNOTI$6Yr=",
  "$mkPOLU,tlVODNrbj(7KLYUtH,tj(6mjTIKHrb PUTNrbmdDVOEtHLNrbdO$mk,tkrb $kmd)u $k~OGROMNrbn(|p)un(",
  "~TNrbe)u^~v6~O$ma ,t~TMEtOKa POVODNYhKLYUtHVOYdPOVODNYhNEPOSTOYANNYm_&[GLA TRYASOGLASNrbi,tjS",
  "[GLNrbmkOSOKAa SVETLrbiT.XVETLrblKRYUKOVrb SVETLrbmgLYUtHVrb SVETLrbi(6~TS[GLA KRYUKOVrba ,tjG",
  "ROMNrbn(|p)un(~TNrbe)u^~v6~O$ma ,t|gTRYASKA|gKUFISMAhOBLAKOgDUDAeNEMKAfPAUKmh<<<pDBYZqh!I (YPS",
  "z.fDASEIAg,5OXEIA wNlDIPLIlVAREIA wNlDIPLImKrY!wIiSYRMATIKIj,QKLITIKIlYPOKRISISa DIPLImdKREMrQ",
  "IiAPESO wNmfEXO wNmdTwPIAgKwZIMrUjAPOSTROFOSa DIPLImeSYNEVMAhTHITAfOLIG)0q%GORG)0q%PSILONgCyqI",
  "LONiVrYYfIS)0q$mbKwZI&Qj=;q$mgSAXIMrUiPq&tPNiSTAVROS APODEXIAmeOXEIAI q%VAREIAI q$meAPOu2&Qmc",
  "?WMAiKLASMAgREVMAfPIAS&Pq%TINAGMAhANA[HtOSMAmSEISMAfYNAG&QiME=;STAVROUmiOY.NIS&Qmg?WMAfLEMOIfD",
  "YOd[HAdwmERAhKRATIMrUjAPESO EXO NEOmbFTHO.Gq%IMIFTHORAjTROMIK)0q$mfKrUVA TROMIKONmdPELrQONhSIF",
  "!wONjK)lEVMAitPREV&QmfRAPISMAh,QKpxS&Pq%LITIKI q$miItEDINhNANAePETASMAhK)lEV&Pp?OmbTROMIK)0p?O",
  "mb=lGGISMrUmGR)lHISMrUmIS)0NEOiOLIG)0NEOjXEIA NEOjPETrQIhKOUFISMAiPETrQOKOUFISMAmdKRATIMOKOUFI",
  "SMAmdPELrQ)0NEOmKwZIMA=;NEO ANOk NEO ANOmdYPSz.gAPOSTROFOS NEOfI SYNDESMOS NEOmmYPORROIhKRATIM",
  "OYPORROONmdELAFRONhCyqz.hMIKR)0ISONlVAREIA NEOkPIAS&PNEOjSIF!w)0NEOmbOMALONgqiKENOMAkLYGISMAh",
  ",QKLITIKI NEOkpxS&PNEOmdETER)0,QKpxSMAmgKYLISMAhqiKENOKYLISMAmdTROMIK)0NEOmEKS[GPTONkSYNAG&PNE",
  "OjRMAftPREV&PNEOmEPEGERMAiSEIS&PNEOkXIR)0KLASMAmTROMIKOPSIF!wONmePSIF!wOLYGISMAmdTROMIKOLYGISM",
  "Ah,QKpxSMAmgPSIF!wO,QKpxSMAmhTROMIKOSYNAGMr=PSIF!wOSYNAGMAmdGORGOSYN?WTONmcARGOSYN?WTONmbETER",
  ")0ARGOSYN?WTONmiOY.NIS&PNEOmb?WMATISMOS ESOcXOk APLOUNjS KAI APO?WSmeKrUVASMAjENDOFONONjYFwUKA",
  "TOeANOiSTAVROShKLAS&PANOkDIPLI q$mcKRATI&QhLLOeNEOlAPOu2&PNEOkLIeDIPLIf[HPLIfE[EPLIiKORONIShLE",
  "IM&PENOS CHRONOUmDYO CHRONONl[H)0CHRONONmwmAR)0CHRONONmeIMISEOS CHRONOUmkGORG)0NEO ANOhPA.YIGM",
  "EN)0q&=jAiDEXIA|pDIGORGONa PA.YIGMEN)0q&=jA KATOeANOmDEXIA|.[HGORGONjARGONfIMIDIARGONkDIARGONh",
  "AGOGI POLI ARGIjARGOTERIfIeME[HAeSIeGORGIbOTERIjPOLI GORGImeMARTYRIA ,z[DSmp?I ,z[DSmfDEYTEROS",
  " ItPSmcp?I DEYTEROS ItPSmh[H[DSjFONIASiETAR[DSfLEGE[DSmkLEGE[DSmbPLAGIOS ItPSmkISAKIA TELOUS I",
  "tOMATOSmlAPOSTROFOI TELOUS ItOMATOS|%FANEROSIS TE[EFONIASl(JFONIASkDIFONIASmgMARTYRIA VARYS I",
  "tPSl,zTOVARYS ItPSmdLAGIOS TETAR[DS~OGORTHMIK)0N APLOUNgDIPLOUNmiENARXIS KAI FTHO.GVOUmkIMIFON",
  "ONeTHORONkFTHO.Gq$ DEYTEROU ItPUmlDIATONIKI ,2NANr=NAOS ItPSkDIATONIKI DImSKLIR)0DIATON)0DImhD",
  "IATONIKI KEcZOcNI KATOeANOmeMALAK)0CHRO&PDIFONIASi(JFONIAS~OHTO.GSKLIR)0CHRO&PVASIS|pTHO.GSKLI",
  "R)0CHRO&PSYNAFImjNENANOmbCHROA ZYGOSfKLITONgSPrYImFTHO.GI YFESIS TETARTIMORIONmkENARMONIOS qiF",
  "ONIA|%YFESIS [HTIMORIONmgDIESIS [HTIMORIONkETARTIMORIONmbAPLI DYO u;mf(JG.MTwmE.Gu;|.DIG.MEX ",
  "u;mj[HG.MOKTO u;~OYFESIS APLI DYO u;mf(JG.MTwmE.Gu;|.DIG.MEX u;mj[HG.MOKTO u;~OGENIKI DIESISgY",
  "FESISmbDIrQOLI APLI MIKRIeEGALIlDIPLIf?WSEOSmeSI&XSIS ?WSEOSa DISIMOUh[HSIMOUhE[ESIMOUmgARSEOS",
  "a DISIMOUh[HSIMOUhE[ESIMOU|pDIyP&PGGjFTOGGOS OUmSTIGMAgARKTIKO ,2VOUdyCDIcKEcZOcNIkKwZIMA=;NEO",
  " MESOl NEO MESOj=;NEO KATOl NEO KATOmdLAS&PKATOlGORG)0NEO KATO~rpB(Y;.sE_zsEmcxZsEmb.3xZsEmjuR",
  "sEmc;ssE_tREPEATnK_[REPEATnWEPErTu]SlDpuSEGNOh CAPOhSEGNOfCODAeREPErXFIGUREn|mfFERMrUa sKBRErY",
  " &3CAESURAhBRACEbKETh)4oPmcTWOoPmbHREEoPmexuoPmc!.oPmd;|oPkST.=FRETsdmixu-ST.=FRETsdmjG CLEFa ",
  ")(AmhC CLEFgF CLEFa )(AmhDRUM CLEF-1b2l>>(T MEASURE .YmjvOnJPfFLATlFLrT]QjNA[8pu]Qm;jRP ]Qk.A",
  "?,nJPfFLATmftjM)0TIMEkUT TIMEi)(AmQU!GCESI&PALTAeBASSAmgMULTI .YkWHOLE .Ykyl.Yj.A.YmEz(H .Yl;|",
  "TEwZH .YmcTzQTY-;7.Ymg;|TY-x&.Ymf)8TWwZY-Ez(H .Y~LX (xy(kPLUS (xy(mbtVX (xy(mf=9(ymj[J(xy( [?",
  "^Ti$,^T_h^Tlvb^Tk[?.f^T~TMO)0(ymh[I-;J(xy( vb^T~2,U(xy(miVOID (xy(mb(xy( sZmbULL (xy(mbCLUS?U",
  "(ymkBREVEfWHOLE (xkyl(xj.A(xmwJl;|TEwZH (xmcTzQTY-;7(xmg;|TY-x&(xmf)8TWwZY-wJ~LtkSTEMdPRECHGES",
  "q7STEMmf[GMOLOn|mhx4v_[GMOLOn|mgtkAUG&!r1u]meFLAGoAmesGBEAMkEND BEAMisGTIEjEND TIEhsGSLURkEND ",
  "SLURisGPHRASEmEND PHRASEktkACCwZgSTACCATOi?PTOgSTACCATISSIMOmbMARCATOa-STACCATOmeACCwZ-STACCAT",
  "OmdLOURxGARPEGGIATO ]QmdtkDOITeRIPdFLIPeSMv[fBENDevPT)kUxE[1T)kUEmlRINxpZqLOlSUBITOgZbPIANOfME",
  "ZZOfxpTEfC.XCENDOjDEC.XCENDOlGRACE (xnZfNOnZmhTRbURNe!3[8Nmb[8NnZfUPh)& =poFmgHAUPTSTIMMElNEBE",
  "NSTIMMElwWSTIMMxEDEGREEnZmtkvbBOWi[?BOWgHARMONICiSNAP PIZZICATOmmPEDpu&Ze[?&4bylPEDpu&4dGLISS",
  "qLO ]Qmc^Xx4NAILSmeDAMPa p?iMAXIMAg%]AfBREVISg;cBREVIS ^Tme(CIMAa sZm;c(CI&P^TmeFUSA ^Tk%]A ,4",
  "FEC=;.YmbIM,4FEC=;.YmjBREVIS .Yl;cBREVIS .Ymd(CI&P.Yl;c(CI&P.YmdTEMPUS ,4FECTUM CUM ,zLr0E ,4F",
  "ECTAiIM,4FECTAk,4FEC=;DI(CU?$-1~;IM,4FECTUM CUM ,zLr0E ,4FECTAiIM,4FECTAa DI(CU?$n|m~,CROIXfGR",
  "EGORzsC CLEFgF CLEFme=9BiVIRGAfPODATUShCLIVISgSCqLICUSjCLIMACUSi?~CULUSiPORRECTUSa FLEXUSmeSC",
  "qLICUS FLEXUSme?~CULUS .XUPINUSmgPES SUBPUNCTISmcKIEVqGC CLEFgwW,bxZ(xkRECITAT!;&4dWHOLE (xkyl",
  "(xj.A(x STEM vaeUPmiwJ STEM vaeUPmhFLATnWSORIeKORONmi<o^y4VOCpuNOTr0n5oEof2o6c5o6mmINSTRU&!puN",
  "OTr0n5-om4b5b7b8b1on_Sowb7b9c30b2b6_Q40bosb5_To6~itky4(W[HSEMEgE[ESEMEjPwZASEME~Yy4(WLEIMMAmi",
  "o(o?MAYqG()^z?T_1TEENmjpDONOyQv]mgDIyQHEAVENLY v]mbUMqGv]lv]LY HEAVENfU&XjHmeTE[EyQtAgFULL tUl",
  "MIREDfsARIERhKEEP!M=ImbC)lRq&ETYlASCwZgOPPOSI?$kB.NCH!MOUTmbDEFECT!.Nwm )wDIS?~?$|pI]8GENCEkYO",
  "UTHFULNwmmINCREASEiPENETRr0lREACHfC)lACThHOLu(r[mWAIT!PFOL&C!LjADVqKhRwPASEfS!wqKkEASEeJOYdC)l",
  "EN?$kENDEAVOURjDUTIESgCHq6EgDECIS!.Nwmmse.XOLU?$mdPACK!PLEGIONgCLOSENwmjKINSHIPhGA?W.;jSTRwYTH",
  "iPURITYgFULLNwmi.XIDENCEjLAW )wMODELm.XPONSEiGO!MTO MEETmbENCOUNTERSkSTOVEfGREATNwmjEN$u&!lPAT",
  "?VhRITUALgF%rgVrQNwm )wWrQ!QhtvSTANCYjMEASUREhE?VITYiUNITYfDI(CISH&!mtd(OmGUARDEDNwmkA?W.=INmM",
  "ASS!PACCUMULr0mEMBELLISH&!mbDOUBTfWATCHfSINK!PINNERfDE,P[8EiARKEN!LiIMM!PEXHAUS?$kSE]8qKiTOPPA",
  "GEiHARDNwmitjPLE?$jLOSUREhFAILUREhAGGRAVr0ltjPLIqKk)0?X]8GEmDIFFICULTIESmLABOU.;jFO=j!QlpACOUN",
  "?!ROD UNIT urmdTENS ur|.z!Tp?Y &0)fd!.|%Tp?Y &0)4dFIVxGo(o|&5ses%rlrkm!xs%rlrjbCbDbEbFbGb>IbJb",
  "K_VbObPbQbRbS_WYbZmcse!xs%rlrkmh;6Ab>CbDb>>Gb>>JbKb>>NbObPbQb>S_WYbZ_arjbCbDb>Fb>HbIbJbK_Vb>Pb",
  "QbRbS_WYbZmcse;6rlrkmhFRAK[8 s%rjb>DbEbFbGb>>JbK_VbObPbQb>S_WYj>=Jrkmdv9rjb>DbEbFbGb>IbJbKbLbM",
  "b>Obo[S_WYj>=JrkmjseFRAK[8 s%rlrkmi;0rlrkhses%rlrkm!xs%rlrkmcse!xs%rlrk~L(JSPACE s%rlrkmf!x=J",
  "vFIbJmk>>ses%p~$rfMUcNUcXIc)Yh,fd?0;zmbNABLA_2p~$rfMUcNUcXIc)Yh,f_YSIGMAl;zl,Xw3nan9!xs%p~$rfM",
  "UcNUcXIc)Yh,fd?0;zmbNABLA_2p~$rfMUcNUcXIc)Yh,f_YSIGMAl;zl,Xw3nanbse!xs%p~$rfMUcNUcXIc)Yh,fd?0",
  ";zmbNABLA_2p~$rfMUcNUcXIc)Yh,f_YSIGMAl;zl,Xw3nanc;Yses%p~$rfMUcNUcXIc)Yh,fd?0;zmbNABLA_2p~$rfM",
  "UcNUcXIc)Yh,f_YSIGMAl;zl,Xw3nan6!xs%p~$rfMUcNUcXIc)Yh,fd?0;zmbNABLA_2p~$rfMUcNUcXIc)Yh,f_YSIGM",
  "Al;zl,Xw3nan5~Tses%upmd=Jupmb>>uyv8uvmm;Yuwseuv|p(JSPACE uv~Y;!WRI?!yv-xaz_ktVz_l[?z_jOVpuz_k",
  "zMz_lq9z_lxaz~mdtVz~mfxa?g[,z~mkz|.KCUPPEDgzPa &CmjtVz|H!LEmgxaz|MIDDLEmftVz|MIDDLEmhxbsTe.JSm",
  "dzPmb[?&$zPmezP &_me&$twa z~k&$sTlCUPPEDgzPmdROSSED|gtXt]ED|%xa&$sTnDz_mkz~nDMIDDLEme&$?fmltX",
  "?f|gxb=n?gsTmhBw0?g=mmh?gsTkzP SPREAD ?j~O[?&$zP ?jetw~TzP &_ ?j|%&_ SPREAD ?hml?gCUPPEDfIRCLE",
  "DhzZEDf!LED|g?gsV!A=m~9!Atx?ja ty~l&]zZv_!FzZv_&_mk&$txzP ?j|pROSSv_?jmfONJOINv_?hmbCUPPv_?h~%",
  "&]CUPPv_!FCUPPv_&_|.&]tZz|UPczP~Y!Dq8D OUT &_mbz?&_mhtZ&_ml&]txzPmeq8D OUTfD|g&]q8D OUT z|UPc",
  "t]EDmf!FzZv_&$zP~cLrTxvx4Sa sTezPgtwa SPLIT~YCLAW xytw|%xaxytxsT~TzMxytw|.FLrTxfmhHEEL xfmmxg",
  "xvsT~BHEEL xgxvsT~2xgsTmmHEEL xgsT~Bxg?h~lC[?xfa )m|.zMxg)m~LOVpuxfmmFLrTxgzPa ?jkNO ?f~iTa sV",
  "PALM FAC!LSmiHEELe?jkHEEL ?jmd?gsTexpWARDmbSPLIT !EmetAa ?ja sTmk%;mfCLAWa ?jkNO ?fi?iz0uDICUE",
  "kKeC[?)mgPa )n?jmd?jk)nNO ?fmbNO ?fi)n?i?hmdRLICUE )mgEhIRCLEgOVALa ?jkNO ?fi?izM)ma ?hmiEa =I",
  "f)n?jmd?jk)nNO ?fmbNO ?fi?j TOUCH!Mz_mhsV&=~Oq8fxbR!QktXR!QmzNR!Qlq9z|&=mlzM%;mxb.=sTetw~TzN.=",
  "tw~Yxcvaa RIPPLE =oCURVEDmbO?YS tUDmhUPj?g[,%; UP|ptV%; UPmeOVpu%; UPmcq9%; UPmdxc.KsTeTOUtHS ",
  "?fmHUMBmfzO?fmgxcz|?fmlzOz|?fmmq9%; !D!DOUTfB~cxcz_mftV%; z_mhzOz_mgq9%; z_mgxb%;mmtX%;|pzN%;m",
  "h.;kq9!A%;|gxbt^%;~LtXt^%;~Txa.=vamczM.=vb!Dz0MIDDLE~oq9.=vb&]z|t]~rxa.=UPc.K%;metV.]mgOVpu.]m",
  "eq9.]mfxa.=MIDDLEa twj.JSmkz_f?fmdz0.=?fmdxa!BmktV!BmlURLICUE !CON~Bz0!COUTdINcUNu2|.C[?!BmjzM",
  "!Bmlq9!COUTfEmlxa&$vamezMMIDDLEmxa&_mctV&_mexa&$.K[??j|gz0&$?fmfxa&]%;m%;g.]mltV&?mmURLICUE &[",
  "ON|.P &?mkzM&?mmq9&[OUTdINeEmmtV&[sT~BLAW &[twa SIDE~lz0&[txOUTdINeD~T!LE z|zPmgxa!EmjzM!Emkxa",
  "!E ?guditykz~kBOTH sTjz|H!LEmexpWARD z|=osTmgzZeuDICUEfVE ?g!T~9CLAW !DuI?g!T~9xa!DuI?gUNu2meI",
  "RCLEmlC[?z|?fa )mmizM!D)me$uhBa =Imlq9!DOUTdINeBmfxa?fa HEELeSIDE udityjxtsVz|MIDDLEm&=l.]mh[,",
  "[ex4Smf)=[ex4Sme[,?7x4Smbxvx4Smg)=xv.JS~YTa HEELmcTOUCH ;[mbGRASP ;[mbS[HKE ;[mcBRUSH ;[mbRUB ",
  ";[lSURFACEn5ShBETWEENmcQUEEZE $y=S$v(Tmc=J(TmbEQUwZIALmgFLICK $y=S$v(Tmc=J(TmbEQUwZIALmeSQUEEZ",
  "E FLICK qC|g(P-zM[_$uf=IkSEQUwZIALmbvbSEQUwZIALmd[_qD$uf=I|gSIDE TO SIDE ;4S|%]?x5C)lACTmmxlx5",
  "C)lACT|g]?;.=n=Yme^5__=o^6t]f[1=n(Pmf^6BEND =Xkt;=XfROTr0mcHECK =XlBOX =Xj^!=XmPEAKS =X~L[EVEL",
  "oX;I;?mjxl;?~O;jK!PARM SPIRpu;=g[HPLE~2(P-ueAWAY =YmTO][=YmdsVAWAY =YmTO][=Y~Txl;.=n=Yme^5__=o",
  "^6t]f[1=n(Pmf^5kqD(Pi^5~BBENDet;=XlHECKfBOX =Xj^!=XmPEAKS =X~O[EVEL-xl;H;?mk]?;?~L;jK!L|g(RuI",
  ".A=YmdykF-tV=Ymh?e.AtV=IfMEDIUM~YHUMP =XkLOOP =X_2vOmf]^uIvP=X_n=XmluITHwU=mmcD t^=IfMEDIUM~l",
  ";I;=gAL?VrV|.(R;jK!PuIzXmmHUMP zXmlLOOP zXml]^zX~!;I;.zX|jzX|gqDzX~^(RuIzUmhHUMP zUmgLOOP zUmg",
  "]^zU~i;I;.zU|QzUmiqDzU~((R]^uePrY =X~2xluIzT=W|%HUMP zT=NvOm=J[HPLEm$v[HPLE~YLOOP zT=S$y=NvO~Y",
  "]^zT=W~;;H;.zSmkvPzSmkqDzS~?(QuIzW=W|gHUMP zW=NvO_n=J[HPLEm$v[HPLE~lLOOP zW=S$y=NvO~O]^zW=W~(",
  ";H;.zV|QzVmiqDzV~,(QuI=YhtjB!IDmcHUMP =IkLOOP =Ik]^SNAKEeMp?f$u~L;H;?~O(Q;j$b,S|%]?ARM tV=S&aS",
  "!LLxE=JvOm&avO~2xlARM tVzY=S&aS!LLxE$y=JvOm&avOmb$vvO~?]?WR!w tVFR)l ;=~9xlWR!w tVzY;=~%]?x5tU",
  "S ;=~Oxlx5tUS zY;=m~!DYNAMzuq~=WmdFrQeS&CeTENSEfRELAXEDhSIMULTANEOUSa qCmmE]8Y O?Y TIMEmeGRADU",
  "ALmdy(a RIMd(R=oTILTmcxl=mmh]?CURVxGxlCURVEmf t1ixIDIREC?%POSI?%NOSE xpWARD TILT!Qd[?)wvaa TIL",
  "T!L~?w?BROWS =nUPc(avamkDREAMY w?BROWS (8vamvbNEU[ELm[?NEU[ELk(8UP|pxpEy( (aC)lACThWRINKLEDmf",
  "w?S )meSQUEEZEDiCLOSEDi BLINK S!LLEg(TmdS yl)mjWIDE )mjylCLOSEDlWIDEN!M(Pmh WINKfLA;mS ]QeFLUT",
  "TER!QfGAZEoX=ma vOgqC~Lxl=ma vOgqC~O]?CURVEDmexlCURVEDmf]?CIRCL!L|ptHEKS PUFFEDg(aSUCKEDmbTENS",
  "E tHEKS HIGHeMIDDLEg&Cmev[SeNOSE (aC)lACThWRINKLEShIGGLESmAIR B&C!MOUTlSUC$bINkB&D=JROTr0SmiSU",
  "CK =JROTr0SmmBRErY INHpxgEXykxE(O td(axtC)lACT_&MILE_B)mkFROWN_B)mk)ntUgxtWRINKLEDiOVAL_BYAWNj",
  ".P_BYAWNmhKISSa xtWRINKLEDmbTENSEa xtSUCKEDmgLIPS PRwmv_TOGE?Ymg &H)=UP,4me]D)=&CERmi(O t.ShWR",
  "INKLES ;=mjT)kUE S?l!MOUT FARmeLIC$bLIPSmTIP sVLIPSmTOUCH!M!T (O|g!T (O RELAXEDmiMOVES AGprST ",
  "tHEKmhtA S?l!MOUTm!T (O|gEwra (Pi)0T)kUEa (PmdLIPSa (PmeBITE LIPSmd(RJAWmbxlJAWmlNECKeyjeEXCIT",
  "E&!k;rULDwjHIP SP!IfPOSI?$Smk]?;rULDwjHIP MOVE|%xl;rULDwjHIP MOVE|.;rULDwjTIL?!FROM WA!w|%?~SO",
  "oX=nS[GTCHmeuJBENDmjxlTW!w!L|g]DBODY TIL?!FROM HIP JOINTS~2LIMB tjBINr0lLwYTHoCmbx4gLOCr0oXSPA",
  "CxGxlSPACEmf HEz(gWIDTHfDEPTHfy( NECKj?~SOfLIMBS DIGITSmjtr;d,TlpGxY MODIFIERoGmd>ROTr1MODIFIE",
  "RoG_Ob1oa~T++++<o&$%FwY u$TRz;ml.6;5G~L%oG~G.6Kml%n$nBELT~WLw[.0m_o^8BELTmg.6wY_o.F%|nA.0~rnu",
  "nA.0m~R.Ztand.0~$ESycvV^&uD|.[9=.uD~R!3yKnduD~OS[GTCHv_svuDmiMp? s%[9K~G$nx9mdDEZH u$,K~L$nBEL",
  "TnA,K|.ENx_,M[9.F,K|p.Fx9nA,K~TTwl u$,K~Lw[,MDEZH u%~Tzq=r.0~T(^.2Twl u%~Tsv.2;TuD~L<<o,>tkGLA",
  "GOLITzvAZ]Xg>wSpvfSLOVOfTVRIDOgUKUdFRITUfHERUe>>;wd>Uc=JYUSj>^sITA~To)o.(]AKwY PUACHUE HM)knCM",
  "AcTSAdNTAdTr$(3XAcNKAdCAc$(;2ZAcNCAcTSAe$1u0N^dRAdVAcNTXAeTXAdxURAcQAc^dNQAd,2XYAdNPAdDLAdNPLA",
  "eHAHdMLAdPLAdyCRRAdA_H!|,DEaEcWio[?[BbMbJbVbSbGbDg;$F)w,8gTH!LfLOCr0iANIMALgIN]8TEBRrVmeXW XWj",
  "YLLABLE %ZmhpKo]LOGOyP (,JmbtZCA~Y+o&TOTOnC,2BAc?D$1Gr)NAbGAd;2tG^d^AJr$.OIbslIjIUcslIUkUbEbsl",
  "EjEOcslEOkObAEcslAEkAi;$._mj<>WANtP %9AcrjAcCAcu0yC^dPy&$((3,2?AxU;1JAcZAc^AVAc$1ObAUcRr)$9y%E",
  "bIb(cUbLLHAeT;2RAd)kdAq6dNGd!LdONcENcAANd(,dUw2YIHk?.TUPaNIfKOIaNIkuwo^NGUNnW++++<<o,wsHHYrve>",
  "GURAGE HHWAlHHWIbv~Ee>GURAGE MWIbwB>QWIbv~EdBWIbwBKWIbv~EdGWIbv~EdFWIbwBPWIbEE~B>MENDE KIKAKUI",
  "n4M001 KIe2 KAe3 KUf65 KEEg95 KEf76 KOOg48 KOg179 KUAh004 WIe5 WAe6 WUg126 WEEg18 WEe4 WOOh045",
  " WOg194 WUIg43 WEIh061 WVIg49 WVAh139 WVEh007 (Cf8 &Xf9 MUNg59 MENg94 MONh154 MUANh89 MUENi010",
  " BIe1 BAe2 BUg150 BEEh097 BEg103 BOOg38 BOg013 Id4 Ad5 Uf163 EEf00 Ee65 OOf47 Oe37 EIe1 INe5 I",
  "Nf95 ANf78 ENg019 SIf20 SAe1 SUg162 SEEg16 SEf36 SOOh079 SOg196 SIAh025 LIe6 LAe7 LUf84 LEEg73",
  " LEf54 LOOh153 LOf10 %^LEl016 DIe7 DAe8 DUf89 DEEh180 DOOf1 DOg022 TIe3 TAe4 TUf91 TEEg55 TEg1",
  "04 TOOh069 TOf28 JIe9 JAf30 JUg157 JEEg13 JEf60 JOOh063 JOg175 %^JOl031 YIe2 YAe3 YUg109 YEEh0",
  "80 YEg141 YOOg21 YOg034 FIe5 FAe6 FUf78 FEEf5 FEg133 FOOh088 FOg197 FUAg01 FANh037 NINf8 NANf9",
  " NUNh117 NENg69 NONg76 HIg041 HAg186 HUg040 HEEg96 HEf42 HOOh140 HOg083 HEEIi128 HOOUi053 HINh",
  "130 HANh087 HUNg52 HENh193 HONh046 HUANh90 NGGIh43 NGGAh82 NGGUi115 (eEi46 (eh56 NGGOOi20 NGGO",
  "h59 NGGAAi27 NGGUAj086 %^(emb106 %^NGGOOmb83 %^NGGOm55 GIf11 GAf68 GUf90 GEEg66 GUEIg7 GUANh84",
  " NGENi057 NGONi177 NGUANj068 PIf99 PAf50 PUf81 PEEg51 PEg102 POOh066 POg145 MBIh062 MBAh122 MB",
  "Uh047 MBEEi188 MBEEi072 MBEh172 MBOOg4 MBOg87 MBUUh61 %^MBEl05 %^MBOOm42 %^MBOl32 KPIh092 KPAg",
  "74 KPUg44 KPEEi108 KPEg12 KPOOh58 KPOg24 GBIh056 GBAh148 GBUh093 GBEEi107 GBEh071 GBOOg0 GBOh1",
  "71 RAf23 NDIf9 NDAf5 NDUg91 NDEEh19 NDEh067 NDOOg4 NDOh152 NJAg92 NJUg49 NJEEh34 NJOOh82 VIe5 ",
  "VAf51 VUf73 VEEh085 VEg144 VOOh077 VOg164 (]Ni058 (,Ni170 NYUNi098 NYENh60 NYONmg>>urktk($TEEN",
  "SdNSezhSi?4SiwU?4SmbziSmfMz;IONS~o<<pAAD$p s&ALIFeDAALIfLAAMeMIIMeBAcSIN(]IYHEkPEcBzGRAcEbxUIb",
  "ObDy&YzGWAWdNUNdKAFd^dUbJIIMetOdy%QAAFeGr,TUcNy&VAc$9GBEdZALdKPOd;j|GALIFeDAALIfLAAMeMIIMeBAcS",
  "IN(]IYHEkPEcBzGRAcEbxUIbObDy&YzGWAWdNUNdKAFd^dUbJIIMetOdy%QAAFeGr,TUcNy&VAc$9GBEdZALdKPOd;jmeA",
  "LIF %Zmd]y%ZmeyDmdyqZAftzMODIFIERmgGE(CrWtzMODIFIER|%NUKTAeASp=>>pKo]!Rw$.B|%+++<>!GC SIYAQ (&",
  "?S)bzkzfxzwxzlzgx%wywIzQ[uxp[tIFTY ?6;|[twvTY ?5ewMN!I[uLAKHaANmbLAKH &Zj($KARORaANhPREFIXv_)h",
  "miPLACEHOLu2lx.SmlRUPEE &2($qA)dcwU?4~BqALAKH &Z~Oo&pDOTTOMqGSIYAQ (&?S)bzkzfxzwxzlzgx%wywIzQ",
  "[uxp[tIFTY ?6;|[twvTY ?5ewMN!ITY ?5kMARRrUNiqA($[rfxud!.e=CeTw2xvzhm;~zhl[e?4lwU?4~Bx,e;|TH~T",
  "o,>>qw&5pxFeBEHdJEEMeDALd>]~KAFd$tTykeDADdZAHdGHprfvFBEHdNOONeFEHdQAFl>!RBEHdJEEMe>HEHc>>AHd>Y",
  "EHdKAFd$pdMEEMeNOONeSEENeA!bFEHdSADdQAFd>;mENfTEHcHEHe$6He>DADd>GHprmbo_=^v_JEEMeo]HAHd>YEHd>",
  "$pd>NOONeSEENeA!b>SADdQAFd>;mENf>>$6He>DADd>GHprf>vFNOONe>QAFmg>S[GTCHv_BEHdJEEMe>HEHc>>AHdTAH",
  "dYEHdKAFd>MEEMeNOONeSEENeA!bFEHdSADdQAFd>;mENfTEHcHEHe$6He>DADdZAHdGHprfvFBEHd>FEHmj>LOOPv_pxF",
  "eBEHdJEEMeDALdHEHd]~>$tTykeDADdZAHdGHprmo^v8BEHdJEEMeDALd>]~>$tTykeDADdZAHdGHprmh<<<o])r &wyhT",
  "ATWEEL|pyhDAL~x+pFMAHJ)k TILE v^WINDjSOUTH WINDk^EWINDjNORTH WINDk.Qvzky7vzm^Kvzm)5)ESmf[e)ESm",
  "eze)Fxv)ESmf!;)ESmg;~)ESmeww)FwE)F(i)ESmg)5)Dmc[e)Dmbze)Dmexv)Dmc!;)Dmd;~)Dmbww)DmewE)Dme(i)Dm",
  "d)5)GSmc[e)GSmbze)GSmexv)GSmc!;)GSmd;~)GSmbww)GSmewE)GSme(i)GSmdPLUMeORtODgBAMBOOgCHRYSAN?WMUM",
  "mbSP.;fUMMERgAUTUMNgW!WgJOKERfr[mfo]DO(CO TILE z6r[f-00n_e1n_e2n_e3n_e4n_e5n_e6n_me]ar[f-00n_e",
  "1n_e2n_e3n_e4n_e5n_e6n_|ppDPLA^ps=D r[eACE )CSPADESmb[e)CSPADESmze)Pxv)CSPADESmb!;)O;~)CSPADES",
  "mww)PwE)P(i)O?N)CSPADESmbJACK )OKNIGH=,SPADESmeQUEwU)P$b)O>>ACE )Cy,Smb[e)Cy,Smze)Mxv)Cy,Smb!;",
  ")L;~)Cy,Smww)MwE)M(i)L?N)Cy,SmbJACK )LKNIGH=,y,SmeQUEwU)M$b)L.QJOKERj>ACE )CumSmd[e)CumSmcze)K",
  "xv)CumSmd!;)J;~)CumSmcww)KwE)K(i)J?N)CumSmdJACK )JKNIGH=,umSmgQUEwU)K$b)Js0JOKERl>ACE )CCLUBSm",
  "[e)CCLUBSlze)Ixv)CCLUBSm!;)H;~)CCLUBSlww)IwE)I(i)H?N)CCLUBSmJACK )HKNIGH=,CLUBSmdQUEwU)I$b)H^K",
  "JOKERlFOOLeTRUMPoEof20b1mjpBuu x[tmk)5tm_btmizetmlxvtmj!;tmk;~tmiwwtmlwEtml(itscNGBrTtZ;Yuu~B",
  "(4;Yuu~;tZZER(^=GmdqjrDDOLLARnO);LAID r^~%,W$$rk~c[Av_$$Smm|6!x$$CbR~BCDcWZjOPY$,=(=d$$rkmkHVc",
  "MVcSDbScPPVdWCk(4$$rk~o.IMCnKgDnKgRnVtZCCbnd);LAID r^|gHUMqGFIGUREmi(5$$rk~ot_(5$$P~?(5ICc,2;2",
  "ABcWCmh=9DJdD CLbOOLeFRwBIDcNEWcGcOKcSOSdU,IwzmmVSc?7Dh;7SCREENmb[eKfxvKgwEKhxd,j)4_&ww,jONxGT",
  "WwZY-[e,jTWOmi;|TY Ph)8TWwZY Pmi$%DmiHCbDRcI-.XgLOSSLwmiSHVdUHDdVODlMASK WORKnb<<o=REGIONpu!H",
  "n5nCrk~2=9zRHOKr=D $VKOKOeSAlpEt9624Be5B57d3CC|p$VDElt94E8Ce591Ae89E3e5929e4EA4e6620e7121e6599",
  "e524DdF8Cd18De65B0e521De7D42d51Fe8CA9e58F0d439e6F14d295d355e4E00b9e904Ae5DE6e4E2De53F3e6307e8D",
  "70e6253e7981dA7Ae5408e6E80d709b8e7533e5272d5B6e914D~2o][Av_t9672Ce4E09c8Ce5B89e70B9e6253e76D7e",
  "52DDe6557~|o|t0ADVqhAGEiCCEPTmmpF;K=&FUcLUc;rUeXIc;xq6XIiCAImko(o?CYCL)4hFOGGYftd[)mdNz(nd=iSm",
  "eSUNRISEnD(NSmeEhCITYSCAPE rTDUSKmfSUNSETnDssSmj.HBOWhsprTNz(md]] WAVEkVOLCANOhMILKY WAYjv] GL",
  "OBE EUROPE-AF.9r;AME.9AShSIA-AU=lLIA|pGLOBv&MERIDIANSmiNEW (LmdWAX!Mt[ (L|%x7(L|gWAX!MGIBBOUS ",
  "(L|pFULL (LmeWAN!MGIBBOUS (L|p$z(LmmWAN!Mt[ (L|%t[ MOONmbNEW (Mmgx7(M|.$z(M|%FULL (MmhSU(0xNbG",
  "&C!M=im;rO?!=imb?YMOMETERls0DROPLETmb^KSUN^~=JCLOUDmeBEHIND CLOUD^~.H~TCLOUuL.HeSNOWe%rN!Lj?~N",
  "ADOmgFOGdWIND B&C!NfHOT DOGhTACOeBURRITOhtHSTNUTiSEEDL!LiE]8y7[GxFDECIDUOUS [GxFPALM [GEjCACTU",
  "SgHOT PEP,4kTULIPftHRRY BLOSSOMmcROSEeHIBISCUSiSUNF&CERjBLOSSOMhEqv)CMAIZEf.9ElHERBexvLEAF CL",
  ");meMAPLE LEAFkFp?wULEAFlLEAF FLUTTE.=z?WINDmlMUSHROOMiTOMATOgAUBERG!IjGRAPESgMELONf]]MELONkT",
  "q6ER!IjLEMONfBANANAgP!IAPPLEj.QAPPLEjy7APPLElPv[bCHftHRRIESi=lWBERRYkyqBURGERjSLzx)CPIZZr=MErT",
  ")0B)4mPOULTRY LEGlRzxCRACKERhr_jCOOKv_.9EkURRYnA.9E_&TEAM!MBOWLmPAGHETTIjBREADfFRENCH FRIESmRO",
  "AS?GSWEwoPOTATOmiDq6OfODENeSUSHIfFRIv_SHRIMPl!gCAKv&SWIRL DE;!|%=0zxCREAMmbHAVv_ICEkzxCREAMjDO",
  "UGHNUTiCOOKIEfHOCOLrWsAmqLYfLOLLIPOPiCU=iDhH)4Y POTj;rRTCAKEjsTO BOXjPO=,FOODlCOOK!PxpKnAKNIF",
  "xFTEAC[?^YyvLEmjSAKE BOTTLEnACUPmhW!I yIkCOCK=^ yImcTROPzwDRINKmcBEwjMUGiCLIN$bBEwjMUGSmgBABY ",
  "BOTTLElxpKnAKNIFv&PLrV|gBOTTLv&POPP!MCORKmmPOPCORNhRIBBONgWRAPPv_P.XwZmdBIRTHDAY CAKxEJACK-O-L",
  "AN?VmcCHR!wMAS [GxFFA?Y CHR!wMASmdIREWORKSb S,PKLERmfr_OONh,PTY POP,4mtvFETTI r_mbTANABA=;[GxE",
  "t_FLAGSmbP!I DECORr0md$BDOLLSmcs=P S[GAMERmbWIND tOMEkMO)0VIEW!MCEREMONYmjStPOL SATtHLmcGRADU",
  "r1CAPmcy,ndTIP )0?X$)|pBOUQUE=,F&CERSmgMz.TARY MEDALmcRE(CDwjRIBBONmd(W$5ndJACKS|%STUDIO MICRO",
  "PH)4mfLEVEL SLIu2mC)lROL KNOBSmbBEAMv_ASCENu((XSmlDESCENu((XS~OFILM F.LESlADMISSI)0?lETSmfs=OU",
  "SEL HORSxFFERRIS WHEELmROLLwjCOA=jmcFISH!MPOLEnAFISHmjMICROPH)4jOVIE CAMERAmC!IMAgy(PH)4jART!w",
  " PpxTTxF?^HAThCIRCUS TwZl?lETgCLAPPwjsdmb,4xs!MARTSmdVIDEO GAMEkDIRECT HITkSLOT MACH!ImBz;IARD",
  "SjGAME DIEiBOWL!PF&HPLA^ps=DSmi(XkLTIPLE (XSmkSAXOPH)4jGUITARg(W$5meTRUMPEThVIOLINg(WSCORxERUN",
  "N!MSzQ=.SrOmlTENNIS RACQUwoqPmlSKInASKI BOOTmeBASKETr_nAHOOPmhtHQUE.QFLAG_&NOWsdERlRUNNERgSURF",
  "ERfPORTS MEDALmTROPHYgHORSE RAC!QAME.9qGxor_mfRUGBY xor__&WIMMERhWwELIFTERmbGOLFERgRAC!MMO?~CY",
  "CLEks=kC.9KwoBrTqPmiVOLLEYr_kFIELD HOCKEY S?l qP|%zxHOCKEY S?lnAPUCK|gTABLE TENNIS PADDLE qP|.",
  "SNOW CAPPv_(NmiCAMP!PBEACyc[)mgUILu(tvSTRUuCmjHOUSE ssSmdCITYSCAPEju2ELICT HOUSE ssmlCLASSzwss",
  "mgDESERTa ISLqLmbNA?&,PKmbSTADIUMhHOUSE ssi^XGARDENmfOFFzxssmd$BPOST OFFICEmiEUROPEqGPOST OFFI",
  "CEmiHOSPITALiBANKeAUTOMrXTELLwjMACH!ImmHOTELfLOVE HOTELktvVENIENCE S?~EmfStPOLgDE,PTMw0S?~EmeF",
  "AC?~YhIZAKrb LAN?Vmd$BCrQLxGEUROPEqGCrQLE_;PENNqh_qPENNqhmbWAV!M^KFLAGks0FLAGmfROSETTEhs0ROSET",
  "TxELABELfBAD(CT)0RACQUETnA;xTTLECOCK~TOWnAq)mbAMPHORAhEMOJI (FFITZPAT.9K TYPE-1-2dow~YRATdMOUS",
  "EfOXc]] BUFFALOmbCOWdTIGERfLEO,PDhRABBITgCATdvzgCROCODILEjWHpxfSNAILcKEfHORSEf.LdGOATe;mEPfMON",
  "KEYgROO=jhtOCKENhDOGdPIGdBOARewPPHqhiOCTOPUShSPIRpu;mLLmBUGdqhdH)4YBEEiLADY BEETLElF!hTROPzwFI",
  "SHmbB&CFISHi[8TLEgHATCH!MtOCKmcBABY tOCKkFR)l-xOBABY tOCKmlBIRDePwYUINhKOALAfPOODLEgDROMEDARY ",
  "CAMELmdBACTRzsCAMELmcDOLPHINhMOUSE xMCOW FACEiTIGwjxMRABBIT FACElCrTFACEivz FACElSPOU?!WykxFHO",
  "RSE xMMONKEY FACElDOG FACEiPIG FACEiFROG FACEjyqS?UxNWOLF FACEjBEqvFACEjPq5 FACEjIG NOSEhAW PR",
  "INTSktOPMUNKiw?ScEcrMNOSEe(OfT)kUEg^K[?,n|pvb,n|],n||,n~9FIS?GyvnWWAV!MyvnWOK yvnT?fS UPnKhva",
  "nWCLAPP!MyvSnTh)nyvS ;&CROWNf^1S HATkw?yIESkNECKTIEhT-SzQThJEANSfDRwmfKI(JgBIKINIg^1S CLO?WSmc",
  "PURSEfyvBAGhPOUCHf&XS ;rEjrYLE?k;rxEHIGH-HEELv_;rEme^1S Sq5LgBOOTSmxoPRINTSkBUST z?SILHOUETTE",
  "_& z?SILHOUETTEmgOYdGIRLe&Xd^1fFAMILYg&XnA^1 HOLu(yvS|%[eMwUHOLu(yvSmfWOMwUHOLu(yvSmlPOLzxOFFI",
  "CERmc^1ndBUNNY v[SmjBRIDv&VEILmd,8ndBLOND yjmkMA(0GUA PI MAOk[8BANmdOLDwj&Xd^1lBABYetvSTRUC?%W",
  "ORKERmhPRINCwmi$BOGREeGOBLINmdGHOSTfBABY q6ELkEXTRrVR.X[HpuALIENmkALIwUMON=jmbIMPdSKULLfINxsr1",
  "DESK ,8mlGUARDS&XjDqKRgLIPS?liNAIL POLISHlxIMASSAGEmyjCUThsABwjPOLElSY.;EhPz;eKISS &ZjLOVE %7l",
  ".;eGEM S?,jKISSeBOUQUEThCOUPLv&y.fWEDD!PBEA?!y.ROKwUy.[ey,SkS,PKL!My.dGROW!My.by,ndrCBLUE y,k",
  "y7y,lYEL&Dy.PURPLE y.y,ndRIBBONmfREVOLV!My,Smey, DECORr0meumnHPv&A u^!T~OwPCTRzu%sBULBmhq6wkmB",
  "OMBeSLEEP!M=(COLLISIONnbSPLrO!MSWErT=)DROPLETgrOn7PILE )CPOOlFLEXv_BICEPSmbDIZZYn8SPEECH r_OON",
  "mcTHOUGHT r_OON_;F&CERmzh POINTSncM)4Y BAGjuHCY EXCHq6Emfy;DOLLARnXCREDIT s=DlBANK(xndYENnPDOL",
  "LARnSEUROnQP),nTmM)4^8W!LSmetER=.]L[GNDnAYENnK~iSEATe,8putjPUTERmfBRIEFCASEj(CIDISCiFLOPPY DIS",
  "KlOPTzwDISCmDVDdFILE xnl)nFILE xnmePAGv&uDjxOUPmcCpxNDARiTv[-OFF CpxNDARmfs=D z_jHAR=.]L[GNDmb",
  "vo[GND|pBqvtERTjCLIPsdjPUSHPINh;JPUSHPINmbPA,4CLIPj=nRULERmc[WRULERmeBOOK&0TABSmbLEDGERg(xBOOK",
  "^~DECORAT!;C);~LtdBOOKl)nBOOKjy7BOOKkBLUE BOOKj)$BOOKlBOOKSfNAME BADGEkSCROLLgMEMOe?MmgPAGERfF",
  "AX MACH!IlSrVLLITE qhENNAmfPUBLzuADDRwm LOUDSPEAKER|ptHE.=MEGAPH)4mgOUTBOX [EYlINBOX [EYkPACKA",
  "GEhE-MAILn8bINtj!Mw1mfw1ndvqpfltdMAILBO^7&CE.QFLAGm.IFLAG~O)nMAILBO^7.IFLAGl&CE.QFLAG~LPOSTBOX",
  "dpuzdlNEWSPA,4j(E^~.xrT$)~!VIBRr1MODxF(E OFFmeNO (ESmeqhENNpUsASmfCAMERA^~FLrOmfVIDEO CAMERAmT",
  "wPVISIONkRADIOfVIDEOCASSETTxEFILM ,zJEC?~mcPORTABLE =jEOmcRAYwjBEADSmTW!wv|S|gtc.vqM%J)qS^~tZ",
  ")5)[mm~(voq4)qS~_qjvoq4)qSm~!&DB.eNwmnczKB.eNwm =)SPEAKE.FCqKLLr1=p|pR^~)5=3mc?7=3S~LBATTERYh",
  "wPCTRzuPLUGmb%FMAGNIF^pyI~L.rMAGNIF^pyI~OLOC$PINK PENmftdLOC$PKEYmiKEYdLOCKe)nLOCKjBELL^~CqKLL",
  "r1=p|.OOK&ZiLINKn7RADIO BUTTONmr[nd%LpfhENuL%LpfgO(0wznd%Aq.~~SOO(0.xpfiTO,I]MpfeNO )5[,Ez(EEN",
  "n5|.KEYCAP TENkINPUT =&$!s%%7Smd=J%7SmhNUMBERShSYMBOLSh$!%7S~LFIREewPCTRzu?~CHmcWRENCHgyqMERgN",
  "UTnABOLTmHOtPfP!wOLgMICROSCOPEkTwPSCOPEjCRYSTpur_m;~,k=ind&%~T$B=&BEGINNER|.[HDw0EMBLEMmcs9BUT",
  "TON|O=9BUTTONmh$v.QtUkBLUE tUl)$ummcBLUE ummg=J)$ummcBLUE ummg]B.Rmmvl.R|p]B=J.R~Lvl=J.R~T&L;l",
  "~Y]I;l~YtZt^POMMEEmhROSS POMMEv&ykF-tVsJmEm(v$,;ctY?8~O.f;ctY?8~r=&&ZS tEPTERmm^K$!uAy;$!uACEL",
  "?kt]mOMn6DOVE )CPEACxEKAABAfMOSQUEgSYNAGOGUEjMENORAyc(iB.NtHS|pBOWL )CHYGIEIAmdtb xI)5Otbk[eO",
  "tbjzeOtbmxvOtbk!;Otbl;~OtbjwwOtbmwEOtbm(iOtbl?NOtbkELwwOtbmbTWELVE Otbmb)4-TzQTYkTWO-TzQTYjHRE",
  "EoUxu-TzQTYk!.-TzQTYl;|-TzQTYjwvoUEz(oUN!I-TzQTYlTEN-TzQTYkELwvoUbTWELVEoUm.fSPEAKER^~)5=3mc?7",
  "=3S~cBULLzd^~=3S|g.;!MBELLmBOOKeCqLLEgMqhELPIECE tb_]SKULLnAt]B)4S|pNO PIRACYjHOLEeMqGz?BUSIN",
  "wm SUIT LEVITAT!L~OSLEUTH )wSPYmbDARK SUNyIESmdSPIu2a WEBkJOYS?liMqGDANC!Ll$,HqM?M|.?MndPAGE||",
  "HqM?M~KTOUCH?.?L|hTOUCH?.?L|g?L )0?^)CMODEM|gC$p;mLL (Emkr[ )Cw1meSTAMPv_w1mew1nd%rN!QlFL^pw1m",
  "dPENnDSTAMPv_w1|gLINKv_PA,4CLIPS_]PUSHPINmb&IPENCILgr_,jPENmbFOUNTAz?PENmPprTBRUSHkCRAYONmeEFT",
  " WRI?!yvm_3OK yvnTh.Iywx4S SPLAYED~OE]8Sv_.Iywx4S SPLAYED~T?fS UPnKhvanWVIC?~Y yvmyw&$x5EXTEND",
  "ED~rAISv_yw,PT sV&$qM.=x4Smm~Kvb,m$,HqMz_~9;y^K$,,p|ps5,p~9s5,n||,n~9;y^K[~vi|h[~vi~3[?,n|pvb",
  ",n|.y,lDESK?^tjPUTERme$5nAMOUSEmg?7NETWORKv_tjPUTERS|gPR!WgOCKwoCALCULA?~_]HARD ;o~AHARD ;o|.",
  "=0;omkTAPE s=[HDGxFWI.Q$5mc)5BUTT)0MOUSEme[eBUTT)0MOUSxGzeBUTT)0MOUSEmfRACKr_j)S,8putjPUTERmjH",
  "ARD DISKjSCREENgPR!W ItvmFAX ItviOPTzwDISC ItvmfDOCU&!ndTEXT^&PIC[8EmePIC[8EmjF.Lv&PIC[8EhTILE",
  "SfqGX_(xnmxng)nxnls=D z|DIVIu2SmcFILE BOXmbFILE CAB!ITmwT(xa PAGEcDmc(xa PAGEcDiwTDOCU&!iPAGEa",
  "SlDOCU&!iPAGEaSfWrQEBASKETlSPIRpu(x PADiCpxNDqvPADmhDESK?^WINDOWmc(CIMIZEhAXIMIZEi);LAPhtc.fqW",
  ";ctWS~xqKLLr1XmcINCREASE F)l SIZEn5|gDECREASE F)l SIZEn5|gtjPRwmIONl)SKEYhROLLED-[?NEWSPA,4mhP",
  "AGv&tZTEXTmkSTOCK tERTlDAGGwjKNIFEmLIPSeSPEA$by( z?SILHOUETTE|%?7RAYS paf%Wme$,=7|F=7mh[e=7Smf",
  "ze=7Smi$,THOUGHT srmh.fTHOUGHT srmi$,q6wjsrmf.fq6wjsrmgMOOD srl%rN!MMOOD sriDmcr~r_OTmd;5XiBO",
  "^7;5XmdLD ;5Xl^7se;5X~B%stJ&4er~setHCK|pWORLD MAPjMOUNT FUJIkTOKYO TOWERlSTATUE )CLIBERTYmeILH",
  "OUETTE )CJAPANmhMOYAIfGRINN!MFACE^~=Zw?S~OxJTv[S )CJOYmk=ZxK^&=Zw?SmC)SSWEATkTz(LY-tdw?S~2ykOd",
  "ORNSmlWINK!N=ZxLS~LxISAVOU.=DELICIOUS FOOD~BRELIEVv_xNb=ZxJy,oTw?SmfSUNyIES|gRK!O(8xNEXPRwmION",
  "Lwm xNhUNAMUSv_xNbxJC)SSWEATmiPENS!;xNtvFUSv_FACEj),v_xNdKISS!NxITHROW!MA KISSmiKISS!MxLSmtdw?",
  "S~BxJSTUCK-OUT T)kUE^&WIN$bw?lTz(LY-tdw?S~_DISAP,kxNfWORRIv_xNq6RY xMPOUT!NCR^pFACEl,4SE]8!Ne",
  "xJLOOK )C[HUMPH|gDISAP,kBUT RELIEVv_xNmgFROWN!MxK~Bq6UISHv_xNcFv[FUL xNWv[Y xMSLEEPY FACElTI.Q",
  "xMGRIMAC!NcLOUDLY CRY!NgxKmiHUSHv_FACElxKnAC)SSWEAT~LSCREAM!Mz?Fv[mkrQONISHv_xNdFLUSHv_xNSLEEP",
  "!ODIZZY xMxI^Y(Oj MEDzwMASKmkGRINN!MCrTxLS~9s_Tv[S )CJOY|p=ZCrTxKky,oTw?S~os_WRY SMILEmlKISS!M",
  "s_tdw?S~YPOU?!CrTxNeCR^pCrTxNdWv[Y CrTxNcS%rLY FROWN!O=ZxNjUPSIDE-vbxNexJROLL!Mw?SmNO GOOD GES",
  "[8xGOK GES[8Emi,8 BOW!MDEEPLYmiSEEoQmgHv[oQmhSPEAKoQmiHAPPY ,8 RAIS!M)5yv~B,8 RAIS!MBOTH yvS ",
  "z?CwPBRr0~YFROWN!Li^XPOUT!NFOLDv_yvSmm(p,q=6,q(m,q=4,q[9(p,q=6,q(m,q=4,qh(p,s=6,s(m,s=4,sy;(p",
  ",s=6,s(m,s=4,mV!I LEAF~9(p,o=6,o(m,o=4,oy;(p,o=6,o(m,o=4,mBUD|.OL&DQUILT =9)&a z[~(SOLID QUILT",
  " =9)&a z[~%%JROCKETme]LROCKET_%ROCKETmfvoROCKETme;5%qwp|%y;;5%qwp~Y%q)nwp|gy;%q)nwp|gqE )&mmSW",
  "rO qE )&mlANS-SERIF y;vP[9toto&DvPtomjy;!X|p;Y!X~Q;Y!X~i]n=1h.4|ptHCKwjsdmb.3tHCKwjsdmiOCKETgH",
  "ELICOPTERkSTEAM LOtjOT!.meRAILWAY s=lHIGH-SPEv_T.H^~st NOSE~YT.HfMETROf%sRAILkSTr0hT.La s=iBUS",
  "d)3BUSmTROLLEYBUSkBUS =ki(CIBUShAMBULqKjFIRE wY!IlPOLzxs=k)3POLzxs=mhTAXIe)3TAXImbAUTOMOBILEk",
  ")3AUTOMOBILEmhRECREA?&VEHICLEmiDELI]8Y TRUCKmcARTICULrXLORRYmf[EC?~h(JRAILgUNTAz?RAILWAYmeSUSP",
  "ENSI)0RAILWAYmg(N CABLEWAYmfAERIpuT.LWAY_&HIPeROWBOAThSPEEDBOATjz6[EFFzu%rmm]a[EFFzu%rmktvSTRU",
  "uCnXPOLzxs=S REVOLV!M%r|%[WFLAG )0POSTmlDOOReNO wZRYnUSMOK!Ln9NO SMOK!Ln8fPUT LIT?Uz?ITS PLACE",
  "n5~LDO (qLITTwkmiPOTABLE ]]n8iNON-POTABLE ]]n8mBICYCLEhNO BICYCLESlBICYCL!wj(N BICYCL!wmgPEDES",
  "[HANkNO PEDES[HANSmctOLDRwUt]!QfMENSn7WOMENSn8b.YROOMiBABYn7TOILETg]] CLOSETm;rWERgBrYaTUBhPAS",
  "SPORT C)lROLmeCUSTOMShBAGGAGE CLAIM_tLUGGAGEm[Hqg;LS~B,zHIBI?G;&tZINxsr1SOURCE|pBOYSn7GIRLSn8C",
  "OUCHnA$pP_&LEEP!MACtjMODr0mjHOPP!MBAGSmbBELLHOP BELLkDdPLACE )CWORSHIPmeOCTAGONALnV;rPP!MTROLL",
  "EYmdTUPAfPAGODAgHINDU TEMPLElUTdwPVA?~io^PLAYG;JSLIDEmeWHEELf.=BUOYjyqMERnAWRENCHmfSHIELDgOIL ",
  "DRUMiMO?~WAYiRAILWAY [ECKmbMOT)wBOATk]BMz.TARY ptEmfptEi=JptE|p=JptxFNOR?WrQ-,mptE|%ptE DE,P[8",
  "EjARRIV!Qfo[SrVLLITEj)3FIRE wY!ImiDIESEL LOtjOT!.mfPASSwYwjSHIP_&COOTERhMOT)wSCOOTERmbCANOEfSL",
  "EDeFL^pSAUCERmbSKrVsdkAUTO .9K;jWmbPICK[?TRUCKmROLLwjSKrVmo[ALtHMzw=&QUINTwmENCEmAIRdFIREev]f",
  "]]fAQUAxpTISg REGIAa-2hVITAEa-2mV!IGARa-osjSULFURgPHILOSOPHERS SULFUR|ISULFURmMERCURY SUBLIMrV",
  "a-osmhCINNAsAi;VTeNI[GfVI[HOLa-2jROCK ;VTa-2lGOLDeSIL]8gIR)0OREa-2kCROCUS )CIRONmcREGULUS )CIR",
  "ONmdCOPPwjOREkIRON-COPPwjORxGSUBLIMrW)CCOP,4mhCROCUS )CCOP,4a-2mfOPPwjqiMONIrVmg;V=,COPPwjqiMO",
  "NIrV|gUBLIMrW)C;V=,COP,4|%]8DIGRISjTz?OREhLEAD OREiqk OREmSUBLIMrW)CqkmiAL=,qkmdUBLIMrW)C;V=,",
  "qk~BV!IGqv)CqkmhREGULUS )Cqka-2mdSa-osb4jALKALIa-2iMARCASITEj;V-AMMONIACmARSENIChREALGARa-2jAU",
  "RIPIG&!lBISMUTH ORElTARTARa-2iQUICK LIMEkBORAXa-oshALUMeOILdSPIRITgTINC[8EiGUMdWAXdPOWu2gCALXe",
  "TUTTYfCAPUT MORTUUMmbSCEP?U)CJOVxGCADUCEUSi[HDwZh=i.Q[HDwZmdLODES?,jSOAPeUR!IfHORSE D[;kA;mSfP",
  "OT A;mSjB.9KfPOWDE.QB.9KmcAMALGAMh=lTUM SUPwj=lTUMa-2mkUBLIMr0lPRECIPITrVlD!wz;eSOLVEa-2kPURIF",
  "Ye[GFAuCmCRUCIBLEa-osb4b5kpxMBIChBrY )CMARYeVAPOURSmdRE?~TgHOUReNz(fDAY-Nz(jM)lHfylD.LeOUNCE~T",
  "pDs0%F!v~l]B!v~e!v~ovl!v~lS%rLY =L|%&ase^Pmse^Pfy;^Pg]n^Plw.^O~AtVt&=L~!;JTARGETms0TINYn1lS%rL",
  "Y =T|%%s^R|E^Rmhse^Rmfy;^Rmg]n^Rmlw.^R~A=9t&]qmf&a=8~%=9TARGET_qTINY umm]8Y =M|E=M|$unt&]8Y =M",
  "|Eum~,unTARGETmcs0TINY &Mm]8Y =R|E=R|$&M t&=R~(THz?y6%sy4uA&ay5mgsey6]8Y sey6y;y5mkw.y5|%THIN",
  "nFm%rnFmb&a;VTIRxFBOLDnFmzAmb]8Y zAmgw.;VTIREml%sxi|p&axi|%sexi|gy;xi|p]nxi~Ow.xi~c%s=B|g&a=B",
  "|pse=Bmmy;=B|g]n=B~Lw.=B~9%swH|%&awH|.sewH|swH|%]nwH~T%s?dm|E?d~O?dmm&a?7,k,e~2%sx$~B&ax$~Lx$m",
  "l&ax!,e~Y.3%$,e~r%sxd,l~Dxd,l~B&a=A~D=A|.;~,k,e|g&awG~QwG~L]nwG~9y;wF,e~Y%s[c~Q[ck,e~2tZ[Ime(4",
  "[I|gtZ=8mc(4=8mlo|$v)$t1bYEL&Dt1by7t1PURPLE t1bBROWN t1.Q=8kBLUEn1l)$=8mbYEL&Cn1mby7=8mPURPLE",
  "n1mbBROWNn1|By;w9mfpG%N=J[L]N=J[K~&=J[K~;vr=J[L%N&f~;]N&f~(.!&f~?vr&f~;%N$v[L]N$v[K~&$v[K~;vr",
  "$v[Lo]%N=O~]]N=O~;.!=O~^vr=O~]%Nwg]Nwf~r.!whvrwgy;%Nwg]Nwf~r.!whvrwg%N$x~]]N$x~;.!$x~^vr$xm~!",
  "%T(2~^]P(2~?.)(2~_vv(2~^%T&e~^]P&e~?.)&e~_vv&e~^%Tsf~?]Psf~,.)sf~]vvsf~?%TzB~]]PzB~;.)zB~^vvzB",
  "~]%T]pm~x]P]p~|.)]pm~!vv]pm~x%Jx6rI]Lx6q)|g.vx6q)|?x6rI%J=drG]L=drE.v=dq)mmvo=drG%Jtu|!tu|ctu",
  "|%votu|vy~~T]Ly~~L.vy~~Yvoy~~T%Jy;q)|Zy;rD.vy;rFvoy;rEo~%J;Yq)|!;YrH;Zvo;Yq)|x;YrEv^;Z=4;YrE^E",
  ";Z%A;Z[_;Yq)mmo_WIDEoK%J%y|!%y|c%zvo%y|x%ssCv^%z=4%ssC^E%z%JsBmi]LsBmg.vsCvosBmi(psBmdv^sC=4sB",
  "md^EsC%J&b|%]L&b|g.v&b|?&b|%(p&bmkv^&b|.=4&bmk^E&b|^y_|!y_|cy|voy_|xy;sCv^y|=4y;sC^Ey|%J]o~O]L",
  "]o~F]o~Tvo]o~O(p]o|pv^]o~T=4]o|p^E]o~(o~%J[K|.]L[Km_%[K~Bvo[K|^^M~?]L^M~,.v^M~]vo^M~?%N(w~Y]N",
  "(w~O.!(w~2vr(w~Yy;q)nHFT ^U)4d[oSk)5ykFeTzQD~0sgoS~9.vsgnI~c%JTOPnIm|STOPnI~0$)oS~Y.v.eoS~9%J",
  ".eoS~2.v$)oS~2%Jr[oV~!.vr[oV~%%JFR)loV~%.vFR)loV~(^LnHFT ^U)4d[oS~2>>q[]LTHwUNORTH WESTml.vTH",
  "wUCURV!MSOUTH WEST~^o&pFtZt^xsEv&xw_bu]SmdEmi$?tYxwj?8jWO u]Siu]kEmevn xOzZe(vzZmzZnimb(vzZni",
  "~iPINCHv_x4S_;y,lBROWN y,lPINCH!MyvmbZIP,4-(O xNfM)4Y-(O xNexJ?YMOMETERmjNERD FACEjTHINK!OxJy(",
  "-Bq5GEmkROBOT xMHUGG!N;$)C?XzdSmfCp? ME yvm.Ir[ )Cyvmh%ExOF!wme.qxOF!wmfyv;jKEfndz_nA&$x4S t]E",
  "D~!I LOVE YOU yvnYxJCOWBOY HATmiC&CN xMNAUSErXxNcROLL!M)0?XFLO)wLAUGH!L~BDROOL!OL^pxMxIPALMjSN",
  "EEZ!OxJ)5w?BROW RAISED|.GRINN!MxJ=i w?Sj)5$unA)5=Jw?~;xJx5C);!MtdLIPS~iSERIOUS xIWITHn5S C);!M",
  "(O~oMIL!MxL;OHqMC);!M(Om~!xK VOMIT!L~B;rCKv_xJEXPLOu(y(~TPREGNqh ^1mcBRErQ-FEED!QcPALMS [?TOGE",
  "?YmfSELFIEgPRINCEgMqGz?TUXEDOmO?Y CHR!wMASmeSHRUGf,8 DO!Ms=TWHEELmkJUGGL!LiFENCERgMOu2N PwZrYL",
  "ONmfW.YLERSiA?UPOLOkyvr_iDIV!MMASKlWIL?GF&CERmbDRU&ODRUMS?lSmiCLIN$byIESmeTUMBLwjyImbSPOONfGO",
  "puNETiRIFLEfFIRST PLACE MEDALmf;7PLACE MEDALmgTzQD PLACE MEDALmfBOX!MGLOVEmMARTIpuARTS UNIxsmi",
  "uD!MS?,mbLAt]E S?l qPmlSOFTr_iFL^pDISClCROISSqhjAVOCADOhCUCUMBERiBAtvfPOTATOgs=ROTgBAGUETTE BR",
  "EADmcy7;VADlSyk&DPqG)CFOODmgTUFFv_FLATBREADmfEGGdyI )CMILKmbPEANUTShKIWIFRUITjPANCAKESiDUMPL!L",
  "ixpTUNE COOKIxFTAKEOUT BOXltPPS?lSkBOW$nSPOONmdCU,I=lWmbOtvUThBROCCOLIiPIEcRETZELhCU=,MEATlSqL",
  "WICHiCANNv_FOODlLEAFY GREENlMq6OeO)0CAKEjBAGELf=ZxL;O?7y,S~?YAWN!N=ZxJTv[mkxJ,PTY zdnA,PTY HAT",
  "mmUNwww?;O]_(O~c);HErXxNdFREEZ!ONINJAfDISGUISv_xNcxIHOLu(r[ Tv[Smg^XPLEAu(w?SmlSq&eLAB COATiGO",
  "GGLEShHI$bBOOTlFLrT;rEjCRABeLI)0FACEjSCORPIONi[8KEYgUNICORN xNEAGLEfDUCKeBATd;jRKfOWLdFOX FACE",
  "iBUTTERFLYjDEEReGORz;AhLIZARDgRHINOCEROSkSHRIMPfQUIDfGIRAFFE xNZEB.GxMHEDGEHOGiSAUROPODiT-REXf",
  "C.9KEThKA(bROOiL$pAfPEACOCKhHIPPOPOTAMUSm,PROTgRACCOONhLOB=jhMOSQUITOhICROBEhBADGERgSWANeMAMMO",
  "THhDODOeSLOTHfOTTEReRq6UTANjSKUNKfF$p!LOiOY=jgBEA]8fISONfSEALeGUIDE DOGj,zB!MCANEmEMOJI tjPON",
  "w0.QyjiuEyjkBALDe^Kyj|pB)4eLEGdxoeTOOTHfSU,4HEROeVz;prlAFETY VESTlEA.FHEA.=AIDmiMO?~IZv_WHEELC",
  "yjmhANUpuWHEELCyjmeEtENzwARMdLEGmctHESE WEDGElUPCAKEh;VTnHKERlBE]8AGE BOXmGARLICgONIONfFALAFEL",
  "hWAFFLEgBUTTERgMrWDRINKkzxCUBEisr TEAkTROLLfSTANu(,8mdKNEEL!M,8mdDEAF ,8lxJ(JCLEmfADULTftOLDfO",
  "LDwjADULTlBv[Dv_,8mc,8ndy(Ss=Fmcz?STEAMY ROOMmcCLIMB!Liz?LOTUS POSI?$mmMAGEeFAIRYfVAMPIREhMER",
  ",8jELFdGENIEfZOMBIEgB.Hf)$y.Bz;v_CAPkSs=FfGLOVESgCOATeSOCKSf.QGIFT w1mfFIRECRACKERlJIGSAW PUZZ",
  "LE ,bhTEST TUBEjPE[H u,kDNA vPHELIXmetjPASShABACUSgFIRE EXT!LUI;mRmfTOOLBOXhB.9KfMAGNETgLUGGAG",
  "EgO?%BOTTLxESPOOL )CTHREADmdr_ )CYARNmSAFETY PINkTEDDY Bv[kBROOMeASKETgROLL )CPA,4mbBqv)CSOAPl",
  "SP)kEgRECEIPThNAZqvAMULETlEUTRpuCHwm $e|HtKmjs0tKmj(8tKml^N$c|.ROOK ;CsX;DPAWN ;B~os2$c|.ROOK ",
  ";CsX;DPAWN ;B~o(9$c|.ROOK ;CsX;DPAWN ;Bm~KtL~3tL~2(8tL~c^N[amls2[aml(9[a|g^KtN~3tN~2(8tN~c^N$d",
  ";EmfROOK ;FsY;GPAWN ;E|.s2$d;EmfROOK ;FsY;GPAWN ;E|.(9$d;EmfROOK ;FsY;GPAWN ;Em|HtM~Ts0tM~T(8",
  "tM~2^NEQUIHOP,4mks2EQUIHOP,4mk(9EQUIHOP,4mm^Nwemjs2wemj(9weml^NKNz(-QUEENfROOKeBI;rP|gs2KNz(-Q",
  "UEENfROOKeBI;rP|gpDXIq6QI .QGENERALhMqLq&NiwPPHqhiHORSEfCHq&OTgANNONgSOLDIERls0GENERALhMqLq&Ni",
  "wPPHqhiHORSEfCHq&OTgANNONgSOLDIERmj>>r_wo;rESm)4-PIECE SWIMSUITmgBRIEFSg;rRTSgTH)k Sq5Lmo[DROP",
  " )CBLOODmbADHES!;Bq5GEmeSTwrOSCOPElX-RAYfCRUTCHgo[YO-YOfKITEe,QCHUTEjBOOMERq6jMAGzuWqLkPINrUgN",
  "ES?!DOLLS_p.;v_PLANETmbCyjfRAZORfAXEdDIYA $pPjBANJOfMz.TARY HELMETmdACCORDIONj%^DRUMjCO!bARPwZ",
  "RY SAWmbSCREWDRI]8lLADu2gzZeMIRRORgWINDOWgPL[;ERhSEW!MNEEDLxEKNOTeBUCKETgMOUSE [EPkTOOTHBRUSHk",
  "y(S?,jPLAs=DhROCKeMIRR)wr_lIDwZIFICr1s=Dm_5BATTERYlyqSAfo[FLYdWORMeBEETLEgCOCKROACHjPOT?GPLqhm",
  "WOODexVhLOTUSfCORALfwTNESTkNES=.EGGSmco^ANATOMzwy.eL[;SfPEOPLE HUGG!QbREGNqh &Xd,8mcERSO(0CROW",
  "NmfpBBLUEBERRIESkELL PEP,4lOL!.fFLATBREADjTAMpxgFONDUEgTEAPOTgPOU.=LIQUIDmcBEANSfJrMo_MELT!N;V",
  "UT!OxJ)nw?;OyvnD(O~BPEE$bw?lue(OmmvJ%(xNeBI?!LIPjUBBLESho~ywz|x4nA?gt]ED~r.vyvmd%JyvmcPALM vb",
  "yvj[?yvmz|,mrT?XVIEWER|.y, yvSlpABLOCK SEXTqh-om12c3b13c23c123d4b14c24c124d34c134d234d1234e5b1",
  "5c25c125d35c235d1235e45c145d245d1245e345d1345e2345e12345f6b16c26c126d36c136d236d1236e46c146c24",
  "6e346d1346e2346e12346f56c156d256d1256e356d1356e2356e12356f456d1456e2456e12456fote1otf2ot|Msc&H",
  "&)tC~X&)tD%C&HtAm~7sc]D&,tC~T&H&,tD%C]DtAmi&,&.~YtB&J]H]D.e~]$,sc]E]H&J&Kmj&)&$..~x]Isc&H&)tC",
  "~X&)tD%C&HtA~?$,sc]D&,tC~T&H&,tD%C]DtAmi&,&.~YtB&J]H]D..|7sc]E]H&J&Kmj&)&.m~]q1qY[0~c|VqYq1[0m",
  "m~XqWqY[0m~($.]Dq1[0~|[Z~Y]D[Z~7[Z~2&H[Z~2]a)6oGb7|%z6)6oGb7~B$,qY)7]D)6~O.g]D)7&H)6~XqZ~Tz6)6",
  "-1358~X)c_~xewK|k)c_~xewK|g$?&cmk.k&d]Dyl&d&Hyl&d!2&cmi]Dyn qYyp&c~x!2&c qYyn~~>$,yp&c q1yn~|",
  "tHCKwjsd xYmg!2tHCKwjsd xY|sz6xYmj]D%C&LxYmm.fTO &IxYmmqY[Wynmm_tq1[Wyn~c]G[Y||[Y~9&L[Y~B$,[Y",
  "~2BOX DRAW!LS %sue]E&$%W|.&)tAmi.fTO &HtA|.]E&)tAmi.fTO &HtA~(&)tB&.|.]E&.~%]E&$$.&;~i.g&)tA~O",
  "TO &HtB&$$)~c%C&HtB&.m~?&,tB&;mm||TO ]E&)tAm~?ummez5nd]l~_q|oTPO!Wmm!2tJ&4g$?RUNN!M&Xmj.kRUNN",
  "!M&Xmk!2vrTIP %Vmg%Jq;]DqZ~~.vq;]DqZm~xvqq1)6~!]Mq1)6~r$?xnme.kxnmfVOIDv_y5|F)n=du]mkNEGAT!;ue",
  "t]f&;|.um|g^KzAnd;LSm|]?3~i&$?3m|)?3~l(5.B~LS?l FIGURE^~ARMS RAISEDmeLEAN!M%Wmb^XDRwm|9]BtHVRO",
  "N|go.SEG&!v_uvmin]n]n]n]n]n]++++o|Lq6UAGE TAGm<pFTAGn0fw%u[qFrS,itpznx[=1huwti%5wcy3.Cttmb$$rk",
  "mjEFTn2mh.4mcz(n2mit3&EiyT$%rkmhEFT uFmg]i.fuFmh?njCqKL TAGko(]3OR-1o%2ogohojo$of1o2ogohojo$od",
  "d2o2ogohoa"
]

end PathTemplate.Text
