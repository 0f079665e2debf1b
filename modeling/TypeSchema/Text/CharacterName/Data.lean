/-!
# Names of characters

The names of characters in consecutive rows, as of Unicode 14: Latin, Greek and Cyrillic letters,
marks, punctuation, symbols, kana, mathematical letters and pictographs. A row starts with the
code point of its first character in base sixteen. Each name in it starts with the number of words
that it has in common with the name before it.
-/

namespace TypeSchema.Text.CharacterName

/-- Rows of consecutive characters with their names. -/
def rows : List String :=
  ["20;0SPACE;0EXCLAMATION MARK;0QUOTATION MARK;0NUMBER SIGN;0DOLLAR SIGN;0PERCENT SIGN",
   "26;0AMPERSAND;0APOSTROPHE;0LEFT PARENTHESIS;0RIGHT PARENTHESIS;0ASTERISK;0PLUS SIGN;0COMMA",
   "2d;0HYPHEN-MINUS;0FULL STOP;0SOLIDUS;0DIGIT ZERO;1ONE;1TWO;1THREE;1FOUR;1FIVE;1SIX;1SEVEN",
   "38;0DIGIT EIGHT;1NINE;0COLON;0SEMICOLON;0LESS-THAN SIGN;0EQUALS SIGN;0GREATER-THAN SIGN",
   "3f;0QUESTION MARK;0COMMERCIAL AT;0LATIN CAPITAL LETTER A;3B;3C;3D;3E;3F;3G;3H;3I;3J;3K;3L;3M",
   "4e;0LATIN CAPITAL LETTER N;3O;3P;3Q;3R;3S;3T;3U;3V;3W;3X;3Y;3Z;0LEFT SQUARE BRACKET",
   "5c;0REVERSE SOLIDUS;0RIGHT SQUARE BRACKET;0CIRCUMFLEX ACCENT;0LOW LINE;0GRAVE ACCENT",
   "61;0LATIN SMALL LETTER A;3B;3C;3D;3E;3F;3G;3H;3I;3J;3K;3L;3M;3N;3O;3P;3Q;3R;3S;3T;3U;3V;3W",
   "78;0LATIN SMALL LETTER X;3Y;3Z;0LEFT CURLY BRACKET;0VERTICAL LINE;0RIGHT CURLY BRACKET",
   "7e;0TILDE",
   "a0;0NO-BREAK SPACE;0INVERTED EXCLAMATION MARK;0CENT SIGN;0POUND SIGN;0CURRENCY SIGN",
   "a5;0YEN SIGN;0BROKEN BAR;0SECTION SIGN;0DIAERESIS;0COPYRIGHT SIGN",
   "aa;0FEMININE ORDINAL INDICATOR;0LEFT-POINTING DOUBLE ANGLE QUOTATION MARK;0NOT SIGN",
   "ad;0SOFT HYPHEN;0REGISTERED SIGN;0MACRON;0DEGREE SIGN;0PLUS-MINUS SIGN;0SUPERSCRIPT TWO",
   "b3;0SUPERSCRIPT THREE;0ACUTE ACCENT;0MICRO SIGN;0PILCROW SIGN;0MIDDLE DOT;0CEDILLA",
   "b9;0SUPERSCRIPT ONE;0MASCULINE ORDINAL INDICATOR;0RIGHT-POINTING DOUBLE ANGLE QUOTATION MARK",
   "bc;0VULGAR FRACTION ONE QUARTER;3HALF;2THREE QUARTERS;0INVERTED QUESTION MARK",
   "c0;0LATIN CAPITAL LETTER A WITH GRAVE;5ACUTE;5CIRCUMFLEX;5TILDE;5DIAERESIS;5RING ABOVE;3AE",
   "c7;0LATIN CAPITAL LETTER C WITH CEDILLA;3E WITH GRAVE;5ACUTE;5CIRCUMFLEX;5DIAERESIS",
   "cc;0LATIN CAPITAL LETTER I WITH GRAVE;5ACUTE;5CIRCUMFLEX;5DIAERESIS;3ETH;3N WITH TILDE",
   "d2;0LATIN CAPITAL LETTER O WITH GRAVE;5ACUTE;5CIRCUMFLEX;5TILDE;5DIAERESIS",
   "d7;0MULTIPLICATION SIGN;0LATIN CAPITAL LETTER O WITH STROKE;3U WITH GRAVE;5ACUTE;5CIRCUMFLEX",
   "dc;0LATIN CAPITAL LETTER U WITH DIAERESIS;3Y WITH ACUTE;3THORN;1SMALL LETTER SHARP S",
   "e0;0LATIN SMALL LETTER A WITH GRAVE;5ACUTE;5CIRCUMFLEX;5TILDE;5DIAERESIS;5RING ABOVE;3AE",
   "e7;0LATIN SMALL LETTER C WITH CEDILLA;3E WITH GRAVE;5ACUTE;5CIRCUMFLEX;5DIAERESIS",
   "ec;0LATIN SMALL LETTER I WITH GRAVE;5ACUTE;5CIRCUMFLEX;5DIAERESIS;3ETH;3N WITH TILDE",
   "f2;0LATIN SMALL LETTER O WITH GRAVE;5ACUTE;5CIRCUMFLEX;5TILDE;5DIAERESIS;0DIVISION SIGN",
   "f8;0LATIN SMALL LETTER O WITH STROKE;3U WITH GRAVE;5ACUTE;5CIRCUMFLEX;5DIAERESIS",
   "fd;0LATIN SMALL LETTER Y WITH ACUTE;3THORN;3Y WITH DIAERESIS;1CAPITAL LETTER A WITH MACRON",
   "101;0LATIN SMALL LETTER A WITH MACRON;1CAPITAL LETTER A WITH BREVE",
   "103;0LATIN SMALL LETTER A WITH BREVE;1CAPITAL LETTER A WITH OGONEK",
   "105;0LATIN SMALL LETTER A WITH OGONEK;1CAPITAL LETTER C WITH ACUTE",
   "107;0LATIN SMALL LETTER C WITH ACUTE;1CAPITAL LETTER C WITH CIRCUMFLEX",
   "109;0LATIN SMALL LETTER C WITH CIRCUMFLEX;1CAPITAL LETTER C WITH DOT ABOVE",
   "10b;0LATIN SMALL LETTER C WITH DOT ABOVE;1CAPITAL LETTER C WITH CARON",
   "10d;0LATIN SMALL LETTER C WITH CARON;1CAPITAL LETTER D WITH CARON;1SMALL LETTER D WITH CARON",
   "110;0LATIN CAPITAL LETTER D WITH STROKE;1SMALL LETTER D WITH STROKE",
   "112;0LATIN CAPITAL LETTER E WITH MACRON;1SMALL LETTER E WITH MACRON",
   "114;0LATIN CAPITAL LETTER E WITH BREVE;1SMALL LETTER E WITH BREVE",
   "116;0LATIN CAPITAL LETTER E WITH DOT ABOVE;1SMALL LETTER E WITH DOT ABOVE",
   "118;0LATIN CAPITAL LETTER E WITH OGONEK;1SMALL LETTER E WITH OGONEK",
   "11a;0LATIN CAPITAL LETTER E WITH CARON;1SMALL LETTER E WITH CARON",
   "11c;0LATIN CAPITAL LETTER G WITH CIRCUMFLEX;1SMALL LETTER G WITH CIRCUMFLEX",
   "11e;0LATIN CAPITAL LETTER G WITH BREVE;1SMALL LETTER G WITH BREVE",
   "120;0LATIN CAPITAL LETTER G WITH DOT ABOVE;1SMALL LETTER G WITH DOT ABOVE",
   "122;0LATIN CAPITAL LETTER G WITH CEDILLA;1SMALL LETTER G WITH CEDILLA",
   "124;0LATIN CAPITAL LETTER H WITH CIRCUMFLEX;1SMALL LETTER H WITH CIRCUMFLEX",
   "126;0LATIN CAPITAL LETTER H WITH STROKE;1SMALL LETTER H WITH STROKE",
   "128;0LATIN CAPITAL LETTER I WITH TILDE;1SMALL LETTER I WITH TILDE",
   "12a;0LATIN CAPITAL LETTER I WITH MACRON;1SMALL LETTER I WITH MACRON",
   "12c;0LATIN CAPITAL LETTER I WITH BREVE;1SMALL LETTER I WITH BREVE",
   "12e;0LATIN CAPITAL LETTER I WITH OGONEK;1SMALL LETTER I WITH OGONEK",
   "130;0LATIN CAPITAL LETTER I WITH DOT ABOVE;1SMALL LETTER DOTLESS I;1CAPITAL LIGATURE IJ",
   "133;0LATIN SMALL LIGATURE IJ;1CAPITAL LETTER J WITH CIRCUMFLEX",
   "135;0LATIN SMALL LETTER J WITH CIRCUMFLEX;1CAPITAL LETTER K WITH CEDILLA",
   "137;0LATIN SMALL LETTER K WITH CEDILLA;3KRA;1CAPITAL LETTER L WITH ACUTE",
   "13a;0LATIN SMALL LETTER L WITH ACUTE;1CAPITAL LETTER L WITH CEDILLA",
   "13c;0LATIN SMALL LETTER L WITH CEDILLA;1CAPITAL LETTER L WITH CARON",
   "13e;0LATIN SMALL LETTER L WITH CARON;1CAPITAL LETTER L WITH MIDDLE DOT",
   "140;0LATIN SMALL LETTER L WITH MIDDLE DOT;1CAPITAL LETTER L WITH STROKE",
   "142;0LATIN SMALL LETTER L WITH STROKE;1CAPITAL LETTER N WITH ACUTE",
   "144;0LATIN SMALL LETTER N WITH ACUTE;1CAPITAL LETTER N WITH CEDILLA",
   "146;0LATIN SMALL LETTER N WITH CEDILLA;1CAPITAL LETTER N WITH CARON",
   "148;0LATIN SMALL LETTER N WITH CARON;4PRECEDED BY APOSTROPHE;1CAPITAL LETTER ENG",
   "14b;0LATIN SMALL LETTER ENG;1CAPITAL LETTER O WITH MACRON;1SMALL LETTER O WITH MACRON",
   "14e;0LATIN CAPITAL LETTER O WITH BREVE;1SMALL LETTER O WITH BREVE",
   "150;0LATIN CAPITAL LETTER O WITH DOUBLE ACUTE;1SMALL LETTER O WITH DOUBLE ACUTE",
   "152;0LATIN CAPITAL LIGATURE OE;1SMALL LIGATURE OE;1CAPITAL LETTER R WITH ACUTE",
   "155;0LATIN SMALL LETTER R WITH ACUTE;1CAPITAL LETTER R WITH CEDILLA",
   "157;0LATIN SMALL LETTER R WITH CEDILLA;1CAPITAL LETTER R WITH CARON",
   "159;0LATIN SMALL LETTER R WITH CARON;1CAPITAL LETTER S WITH ACUTE;1SMALL LETTER S WITH ACUTE",
   "15c;0LATIN CAPITAL LETTER S WITH CIRCUMFLEX;1SMALL LETTER S WITH CIRCUMFLEX",
   "15e;0LATIN CAPITAL LETTER S WITH CEDILLA;1SMALL LETTER S WITH CEDILLA",
   "160;0LATIN CAPITAL LETTER S WITH CARON;1SMALL LETTER S WITH CARON",
   "162;0LATIN CAPITAL LETTER T WITH CEDILLA;1SMALL LETTER T WITH CEDILLA",
   "164;0LATIN CAPITAL LETTER T WITH CARON;1SMALL LETTER T WITH CARON",
   "166;0LATIN CAPITAL LETTER T WITH STROKE;1SMALL LETTER T WITH STROKE",
   "168;0LATIN CAPITAL LETTER U WITH TILDE;1SMALL LETTER U WITH TILDE",
   "16a;0LATIN CAPITAL LETTER U WITH MACRON;1SMALL LETTER U WITH MACRON",
   "16c;0LATIN CAPITAL LETTER U WITH BREVE;1SMALL LETTER U WITH BREVE",
   "16e;0LATIN CAPITAL LETTER U WITH RING ABOVE;1SMALL LETTER U WITH RING ABOVE",
   "170;0LATIN CAPITAL LETTER U WITH DOUBLE ACUTE;1SMALL LETTER U WITH DOUBLE ACUTE",
   "172;0LATIN CAPITAL LETTER U WITH OGONEK;1SMALL LETTER U WITH OGONEK",
   "174;0LATIN CAPITAL LETTER W WITH CIRCUMFLEX;1SMALL LETTER W WITH CIRCUMFLEX",
   "176;0LATIN CAPITAL LETTER Y WITH CIRCUMFLEX;1SMALL LETTER Y WITH CIRCUMFLEX",
   "178;0LATIN CAPITAL LETTER Y WITH DIAERESIS;3Z WITH ACUTE;1SMALL LETTER Z WITH ACUTE",
   "17b;0LATIN CAPITAL LETTER Z WITH DOT ABOVE;1SMALL LETTER Z WITH DOT ABOVE",
   "17d;0LATIN CAPITAL LETTER Z WITH CARON;1SMALL LETTER Z WITH CARON;3LONG S;3B WITH STROKE",
   "181;0LATIN CAPITAL LETTER B WITH HOOK;5TOPBAR;1SMALL LETTER B WITH TOPBAR",
   "184;0LATIN CAPITAL LETTER TONE SIX;1SMALL LETTER TONE SIX;1CAPITAL LETTER OPEN O",
   "187;0LATIN CAPITAL LETTER C WITH HOOK;1SMALL LETTER C WITH HOOK;1CAPITAL LETTER AFRICAN D",
   "18a;0LATIN CAPITAL LETTER D WITH HOOK;5TOPBAR;1SMALL LETTER D WITH TOPBAR;3TURNED DELTA",
   "18e;0LATIN CAPITAL LETTER REVERSED E;3SCHWA;3OPEN E;3F WITH HOOK;1SMALL LETTER F WITH HOOK",
   "193;0LATIN CAPITAL LETTER G WITH HOOK;3GAMMA;1SMALL LETTER HV;1CAPITAL LETTER IOTA",
   "197;0LATIN CAPITAL LETTER I WITH STROKE;3K WITH HOOK;1SMALL LETTER K WITH HOOK;3L WITH BAR",
   "19b;0LATIN SMALL LETTER LAMBDA WITH STROKE;1CAPITAL LETTER TURNED M;3N WITH LEFT HOOK",
   "19e;0LATIN SMALL LETTER N WITH LONG RIGHT LEG;1CAPITAL LETTER O WITH MIDDLE TILDE;5HORN",
   "1a1;0LATIN SMALL LETTER O WITH HORN;1CAPITAL LETTER OI;1SMALL LETTER OI",
   "1a4;0LATIN CAPITAL LETTER P WITH HOOK;1SMALL LETTER P WITH HOOK;1LETTER YR",
   "1a7;0LATIN CAPITAL LETTER TONE TWO;1SMALL LETTER TONE TWO;1CAPITAL LETTER ESH",
   "1aa;0LATIN LETTER REVERSED ESH LOOP;1SMALL LETTER T WITH PALATAL HOOK",
   "1ac;0LATIN CAPITAL LETTER T WITH HOOK;1SMALL LETTER T WITH HOOK",
   "1ae;0LATIN CAPITAL LETTER T WITH RETROFLEX HOOK;3U WITH HORN;1SMALL LETTER U WITH HORN",
   "1b1;0LATIN CAPITAL LETTER UPSILON;3V WITH HOOK;3Y WITH HOOK;1SMALL LETTER Y WITH HOOK",
   "1b5;0LATIN CAPITAL LETTER Z WITH STROKE;1SMALL LETTER Z WITH STROKE;1CAPITAL LETTER EZH",
   "1b8;0LATIN CAPITAL LETTER EZH REVERSED;1SMALL LETTER EZH REVERSED;4WITH TAIL",
   "1bb;0LATIN LETTER TWO WITH STROKE;1CAPITAL LETTER TONE FIVE;1SMALL LETTER TONE FIVE",
   "1be;0LATIN LETTER INVERTED GLOTTAL STOP WITH STROKE;2WYNN;2DENTAL CLICK;2LATERAL CLICK",
   "1c2;0LATIN LETTER ALVEOLAR CLICK;2RETROFLEX CLICK;1CAPITAL LETTER DZ WITH CARON",
   "1c5;0LATIN CAPITAL LETTER D WITH SMALL LETTER Z WITH CARON;1SMALL LETTER DZ WITH CARON",
   "1c7;0LATIN CAPITAL LETTER LJ;3L WITH SMALL LETTER J;1SMALL LETTER LJ;1CAPITAL LETTER NJ",
   "1cb;0LATIN CAPITAL LETTER N WITH SMALL LETTER J;1SMALL LETTER NJ",
   "1cd;0LATIN CAPITAL LETTER A WITH CARON;1SMALL LETTER A WITH CARON",
   "1cf;0LATIN CAPITAL LETTER I WITH CARON;1SMALL LETTER I WITH CARON",
   "1d1;0LATIN CAPITAL LETTER O WITH CARON;1SMALL LETTER O WITH CARON",
   "1d3;0LATIN CAPITAL LETTER U WITH CARON;1SMALL LETTER U WITH CARON",
   "1d5;0LATIN CAPITAL LETTER U WITH DIAERESIS AND MACRON",
   "1d6;0LATIN SMALL LETTER U WITH DIAERESIS AND MACRON",
   "1d7;0LATIN CAPITAL LETTER U WITH DIAERESIS AND ACUTE",
   "1d8;0LATIN SMALL LETTER U WITH DIAERESIS AND ACUTE",
   "1d9;0LATIN CAPITAL LETTER U WITH DIAERESIS AND CARON",
   "1da;0LATIN SMALL LETTER U WITH DIAERESIS AND CARON",
   "1db;0LATIN CAPITAL LETTER U WITH DIAERESIS AND GRAVE",
   "1dc;0LATIN SMALL LETTER U WITH DIAERESIS AND GRAVE;3TURNED E",
   "1de;0LATIN CAPITAL LETTER A WITH DIAERESIS AND MACRON",
   "1df;0LATIN SMALL LETTER A WITH DIAERESIS AND MACRON",
   "1e0;0LATIN CAPITAL LETTER A WITH DOT ABOVE AND MACRON",
   "1e1;0LATIN SMALL LETTER A WITH DOT ABOVE AND MACRON;1CAPITAL LETTER AE WITH MACRON",
   "1e3;0LATIN SMALL LETTER AE WITH MACRON;1CAPITAL LETTER G WITH STROKE",
   "1e5;0LATIN SMALL LETTER G WITH STROKE;1CAPITAL LETTER G WITH CARON",
   "1e7;0LATIN SMALL LETTER G WITH CARON;1CAPITAL LETTER K WITH CARON;1SMALL LETTER K WITH CARON",
   "1ea;0LATIN CAPITAL LETTER O WITH OGONEK;1SMALL LETTER O WITH OGONEK",
   "1ec;0LATIN CAPITAL LETTER O WITH OGONEK AND MACRON;1SMALL LETTER O WITH OGONEK AND MACRON",
   "1ee;0LATIN CAPITAL LETTER EZH WITH CARON;1SMALL LETTER EZH WITH CARON;3J WITH CARON",
   "1f1;0LATIN CAPITAL LETTER DZ;3D WITH SMALL LETTER Z;1SMALL LETTER DZ",
   "1f4;0LATIN CAPITAL LETTER G WITH ACUTE;1SMALL LETTER G WITH ACUTE;1CAPITAL LETTER HWAIR",
   "1f7;0LATIN CAPITAL LETTER WYNN;3N WITH GRAVE;1SMALL LETTER N WITH GRAVE",
   "1fa;0LATIN CAPITAL LETTER A WITH RING ABOVE AND ACUTE",
   "1fb;0LATIN SMALL LETTER A WITH RING ABOVE AND ACUTE;1CAPITAL LETTER AE WITH ACUTE",
   "1fd;0LATIN SMALL LETTER AE WITH ACUTE;1CAPITAL LETTER O WITH STROKE AND ACUTE",
   "1ff;0LATIN SMALL LETTER O WITH STROKE AND ACUTE;1CAPITAL LETTER A WITH DOUBLE GRAVE",
   "201;0LATIN SMALL LETTER A WITH DOUBLE GRAVE;1CAPITAL LETTER A WITH INVERTED BREVE",
   "203;0LATIN SMALL LETTER A WITH INVERTED BREVE;1CAPITAL LETTER E WITH DOUBLE GRAVE",
   "205;0LATIN SMALL LETTER E WITH DOUBLE GRAVE;1CAPITAL LETTER E WITH INVERTED BREVE",
   "207;0LATIN SMALL LETTER E WITH INVERTED BREVE;1CAPITAL LETTER I WITH DOUBLE GRAVE",
   "209;0LATIN SMALL LETTER I WITH DOUBLE GRAVE;1CAPITAL LETTER I WITH INVERTED BREVE",
   "20b;0LATIN SMALL LETTER I WITH INVERTED BREVE;1CAPITAL LETTER O WITH DOUBLE GRAVE",
   "20d;0LATIN SMALL LETTER O WITH DOUBLE GRAVE;1CAPITAL LETTER O WITH INVERTED BREVE",
   "20f;0LATIN SMALL LETTER O WITH INVERTED BREVE;1CAPITAL LETTER R WITH DOUBLE GRAVE",
   "211;0LATIN SMALL LETTER R WITH DOUBLE GRAVE;1CAPITAL LETTER R WITH INVERTED BREVE",
   "213;0LATIN SMALL LETTER R WITH INVERTED BREVE;1CAPITAL LETTER U WITH DOUBLE GRAVE",
   "215;0LATIN SMALL LETTER U WITH DOUBLE GRAVE;1CAPITAL LETTER U WITH INVERTED BREVE",
   "217;0LATIN SMALL LETTER U WITH INVERTED BREVE;1CAPITAL LETTER S WITH COMMA BELOW",
   "219;0LATIN SMALL LETTER S WITH COMMA BELOW;1CAPITAL LETTER T WITH COMMA BELOW",
   "21b;0LATIN SMALL LETTER T WITH COMMA BELOW;1CAPITAL LETTER YOGH;1SMALL LETTER YOGH",
   "21e;0LATIN CAPITAL LETTER H WITH CARON;1SMALL LETTER H WITH CARON",
   "220;0LATIN CAPITAL LETTER N WITH LONG RIGHT LEG;1SMALL LETTER D WITH CURL;1CAPITAL LETTER OU",
   "223;0LATIN SMALL LETTER OU;1CAPITAL LETTER Z WITH HOOK;1SMALL LETTER Z WITH HOOK",
   "226;0LATIN CAPITAL LETTER A WITH DOT ABOVE;1SMALL LETTER A WITH DOT ABOVE",
   "228;0LATIN CAPITAL LETTER E WITH CEDILLA;1SMALL LETTER E WITH CEDILLA",
   "22a;0LATIN CAPITAL LETTER O WITH DIAERESIS AND MACRON",
   "22b;0LATIN SMALL LETTER O WITH DIAERESIS AND MACRON;1CAPITAL LETTER O WITH TILDE AND MACRON",
   "22d;0LATIN SMALL LETTER O WITH TILDE AND MACRON;1CAPITAL LETTER O WITH DOT ABOVE",
   "22f;0LATIN SMALL LETTER O WITH DOT ABOVE;1CAPITAL LETTER O WITH DOT ABOVE AND MACRON",
   "231;0LATIN SMALL LETTER O WITH DOT ABOVE AND MACRON;1CAPITAL LETTER Y WITH MACRON",
   "233;0LATIN SMALL LETTER Y WITH MACRON;3L WITH CURL;3N WITH CURL;3T WITH CURL;3DOTLESS J",
   "238;0LATIN SMALL LETTER DB DIGRAPH;3QP DIGRAPH;1CAPITAL LETTER A WITH STROKE;3C WITH STROKE",
   "23c;0LATIN SMALL LETTER C WITH STROKE;1CAPITAL LETTER L WITH BAR;3T WITH DIAGONAL STROKE",
   "23f;0LATIN SMALL LETTER S WITH SWASH TAIL;3Z WITH SWASH TAIL;1CAPITAL LETTER GLOTTAL STOP",
   "242;0LATIN SMALL LETTER GLOTTAL STOP;1CAPITAL LETTER B WITH STROKE;3U BAR;3TURNED V",
   "246;0LATIN CAPITAL LETTER E WITH STROKE;1SMALL LETTER E WITH STROKE",
   "248;0LATIN CAPITAL LETTER J WITH STROKE;1SMALL LETTER J WITH STROKE",
   "24a;0LATIN CAPITAL LETTER SMALL Q WITH HOOK TAIL;1SMALL LETTER Q WITH HOOK TAIL",
   "24c;0LATIN CAPITAL LETTER R WITH STROKE;1SMALL LETTER R WITH STROKE",
   "24e;0LATIN CAPITAL LETTER Y WITH STROKE;1SMALL LETTER Y WITH STROKE",
   "2b0;0MODIFIER LETTER SMALL H;4WITH HOOK;3J;3R;3TURNED R;5WITH HOOK;3CAPITAL INVERTED R;3W;3Y",
   "2b9;0MODIFIER LETTER PRIME;2DOUBLE PRIME;2TURNED COMMA;2APOSTROPHE;2REVERSED COMMA",
   "2be;0MODIFIER LETTER RIGHT HALF RING;2LEFT HALF RING;2GLOTTAL STOP;2REVERSED GLOTTAL STOP",
   "2c2;0MODIFIER LETTER LEFT ARROWHEAD;2RIGHT ARROWHEAD;2UP ARROWHEAD;2DOWN ARROWHEAD",
   "2c6;0MODIFIER LETTER CIRCUMFLEX ACCENT;0CARON;0MODIFIER LETTER VERTICAL LINE;2MACRON",
   "2ca;0MODIFIER LETTER ACUTE ACCENT;2GRAVE ACCENT;2LOW VERTICAL LINE;3MACRON;3GRAVE ACCENT",
   "2cf;0MODIFIER LETTER LOW ACUTE ACCENT;2TRIANGULAR COLON;2HALF TRIANGULAR COLON",
   "2d2;0MODIFIER LETTER CENTRED RIGHT HALF RING;3LEFT HALF RING;2UP TACK;2DOWN TACK;2PLUS SIGN",
   "2d7;0MODIFIER LETTER MINUS SIGN;0BREVE;0DOT ABOVE;0RING ABOVE;0OGONEK;0SMALL TILDE",
   "2dd;0DOUBLE ACUTE ACCENT;0MODIFIER LETTER RHOTIC HOOK;2CROSS ACCENT;2SMALL GAMMA;3L;3S;3X",
   "2e4;0MODIFIER LETTER SMALL REVERSED GLOTTAL STOP;2EXTRA-HIGH TONE BAR;2HIGH TONE BAR",
   "2e7;0MODIFIER LETTER MID TONE BAR;2LOW TONE BAR;2EXTRA-LOW TONE BAR;2YIN DEPARTING TONE MARK",
   "2eb;0MODIFIER LETTER YANG DEPARTING TONE MARK;2VOICING;2UNASPIRATED;2DOUBLE APOSTROPHE",
   "2ef;0MODIFIER LETTER LOW DOWN ARROWHEAD;3UP ARROWHEAD;3LEFT ARROWHEAD;3RIGHT ARROWHEAD;3RING",
   "2f4;0MODIFIER LETTER MIDDLE GRAVE ACCENT;3DOUBLE GRAVE ACCENT;4ACUTE ACCENT;2LOW TILDE",
   "2f8;0MODIFIER LETTER RAISED COLON;2BEGIN HIGH TONE;2END HIGH TONE;2BEGIN LOW TONE",
   "2fc;0MODIFIER LETTER END LOW TONE;2SHELF;2OPEN SHELF;2LOW LEFT ARROW;0COMBINING GRAVE ACCENT",
   "301;0COMBINING ACUTE ACCENT;1CIRCUMFLEX ACCENT;1TILDE;1MACRON;1OVERLINE;1BREVE;1DOT ABOVE",
   "308;0COMBINING DIAERESIS;1HOOK ABOVE;1RING ABOVE;1DOUBLE ACUTE ACCENT;1CARON",
   "30d;0COMBINING VERTICAL LINE ABOVE;1DOUBLE VERTICAL LINE ABOVE;2GRAVE ACCENT;1CANDRABINDU",
   "311;0COMBINING INVERTED BREVE;1TURNED COMMA ABOVE;1COMMA ABOVE;1REVERSED COMMA ABOVE",
   "315;0COMBINING COMMA ABOVE RIGHT;1GRAVE ACCENT BELOW;1ACUTE ACCENT BELOW;1LEFT TACK BELOW",
   "319;0COMBINING RIGHT TACK BELOW;1LEFT ANGLE ABOVE;1HORN;1LEFT HALF RING BELOW;1UP TACK BELOW",
   "31e;0COMBINING DOWN TACK BELOW;1PLUS SIGN BELOW;1MINUS SIGN BELOW;1PALATALIZED HOOK BELOW",
   "322;0COMBINING RETROFLEX HOOK BELOW;1DOT BELOW;1DIAERESIS BELOW;1RING BELOW;1COMMA BELOW",
   "327;0COMBINING CEDILLA;1OGONEK;1VERTICAL LINE BELOW;1BRIDGE BELOW",
   "32b;0COMBINING INVERTED DOUBLE ARCH BELOW;1CARON BELOW;1CIRCUMFLEX ACCENT BELOW;1BREVE BELOW",
   "32f;0COMBINING INVERTED BREVE BELOW;1TILDE BELOW;1MACRON BELOW;1LOW LINE;1DOUBLE LOW LINE",
   "334;0COMBINING TILDE OVERLAY;1SHORT STROKE OVERLAY;1LONG STROKE OVERLAY",
   "337;0COMBINING SHORT SOLIDUS OVERLAY;1LONG SOLIDUS OVERLAY;1RIGHT HALF RING BELOW",
   "33a;0COMBINING INVERTED BRIDGE BELOW;1SQUARE BELOW;1SEAGULL BELOW;1X ABOVE;1VERTICAL TILDE",
   "33f;0COMBINING DOUBLE OVERLINE;1GRAVE TONE MARK;1ACUTE TONE MARK;1GREEK PERISPOMENI;2KORONIS",
   "344;0COMBINING GREEK DIALYTIKA TONOS;2YPOGEGRAMMENI;1BRIDGE ABOVE;1EQUALS SIGN BELOW",
   "348;0COMBINING DOUBLE VERTICAL LINE BELOW;1LEFT ANGLE BELOW;1NOT TILDE ABOVE",
   "34b;0COMBINING HOMOTHETIC ABOVE;1ALMOST EQUAL TO ABOVE;1LEFT RIGHT ARROW BELOW",
   "34e;0COMBINING UPWARDS ARROW BELOW;1GRAPHEME JOINER;1RIGHT ARROWHEAD ABOVE",
   "351;0COMBINING LEFT HALF RING ABOVE;1FERMATA;1X BELOW;1LEFT ARROWHEAD BELOW",
   "355;0COMBINING RIGHT ARROWHEAD BELOW;3AND UP ARROWHEAD BELOW;2HALF RING ABOVE",
   "358;0COMBINING DOT ABOVE RIGHT;1ASTERISK BELOW;1DOUBLE RING BELOW;1ZIGZAG ABOVE",
   "35c;0COMBINING DOUBLE BREVE BELOW;3;2MACRON;3BELOW;2TILDE;2INVERTED BREVE",
   "362;0COMBINING DOUBLE RIGHTWARDS ARROW BELOW;1LATIN SMALL LETTER A;4E;4I;4O;4U;4C;4D;4H;4M",
   "36c;0COMBINING LATIN SMALL LETTER R;4T;4V;4X;0GREEK CAPITAL LETTER HETA;1SMALL LETTER HETA",
   "372;0GREEK CAPITAL LETTER ARCHAIC SAMPI;1SMALL LETTER ARCHAIC SAMPI;1NUMERAL SIGN",
   "375;0GREEK LOWER NUMERAL SIGN;1CAPITAL LETTER PAMPHYLIAN DIGAMMA",
   "377;0GREEK SMALL LETTER PAMPHYLIAN DIGAMMA",
   "37a;0GREEK YPOGEGRAMMENI;1SMALL REVERSED LUNATE SIGMA SYMBOL;2DOTTED LUNATE SIGMA SYMBOL",
   "37d;0GREEK SMALL REVERSED DOTTED LUNATE SIGMA SYMBOL;1QUESTION MARK;1CAPITAL LETTER YOT",
   "384;0GREEK TONOS;1DIALYTIKA TONOS;1CAPITAL LETTER ALPHA WITH TONOS;1ANO TELEIA",
   "388;0GREEK CAPITAL LETTER EPSILON WITH TONOS;3ETA WITH TONOS;3IOTA WITH TONOS",
   "38c;0GREEK CAPITAL LETTER OMICRON WITH TONOS",
   "38e;0GREEK CAPITAL LETTER UPSILON WITH TONOS;3OMEGA WITH TONOS",
   "390;0GREEK SMALL LETTER IOTA WITH DIALYTIKA AND TONOS;1CAPITAL LETTER ALPHA;3BETA;3GAMMA",
   "394;0GREEK CAPITAL LETTER DELTA;3EPSILON;3ZETA;3ETA;3THETA;3IOTA;3KAPPA;3LAMDA;3MU;3NU;3XI",
   "39f;0GREEK CAPITAL LETTER OMICRON;3PI;3RHO",
   "3a3;0GREEK CAPITAL LETTER SIGMA;3TAU;3UPSILON;3PHI;3CHI;3PSI;3OMEGA;3IOTA WITH DIALYTIKA",
   "3ab;0GREEK CAPITAL LETTER UPSILON WITH DIALYTIKA;1SMALL LETTER ALPHA WITH TONOS",
   "3ad;0GREEK SMALL LETTER EPSILON WITH TONOS;3ETA WITH TONOS;3IOTA WITH TONOS",
   "3b0;0GREEK SMALL LETTER UPSILON WITH DIALYTIKA AND TONOS;3ALPHA;3BETA;3GAMMA;3DELTA;3EPSILON",
   "3b6;0GREEK SMALL LETTER ZETA;3ETA;3THETA;3IOTA;3KAPPA;3LAMDA;3MU;3NU;3XI;3OMICRON;3PI;3RHO",
   "3c2;0GREEK SMALL LETTER FINAL SIGMA;3SIGMA;3TAU;3UPSILON;3PHI;3CHI;3PSI;3OMEGA",
   "3ca;0GREEK SMALL LETTER IOTA WITH DIALYTIKA;3UPSILON WITH DIALYTIKA;3OMICRON WITH TONOS",
   "3cd;0GREEK SMALL LETTER UPSILON WITH TONOS;3OMEGA WITH TONOS;1CAPITAL KAI SYMBOL",
   "3d0;0GREEK BETA SYMBOL;1THETA SYMBOL;1UPSILON WITH HOOK SYMBOL;3ACUTE AND HOOK SYMBOL",
   "3d4;0GREEK UPSILON WITH DIAERESIS AND HOOK SYMBOL;1PHI SYMBOL;1PI SYMBOL;1KAI SYMBOL",
   "3d8;0GREEK LETTER ARCHAIC KOPPA;1SMALL LETTER ARCHAIC KOPPA;1LETTER STIGMA",
   "3db;0GREEK SMALL LETTER STIGMA;1LETTER DIGAMMA;1SMALL LETTER DIGAMMA;1LETTER KOPPA",
   "3df;0GREEK SMALL LETTER KOPPA;1LETTER SAMPI;1SMALL LETTER SAMPI;0COPTIC CAPITAL LETTER SHEI",
   "3e3;0COPTIC SMALL LETTER SHEI;1CAPITAL LETTER FEI;1SMALL LETTER FEI;1CAPITAL LETTER KHEI",
   "3e7;0COPTIC SMALL LETTER KHEI;1CAPITAL LETTER HORI;1SMALL LETTER HORI;1CAPITAL LETTER GANGIA",
   "3eb;0COPTIC SMALL LETTER GANGIA;1CAPITAL LETTER SHIMA;1SMALL LETTER SHIMA",
   "3ee;0COPTIC CAPITAL LETTER DEI;1SMALL LETTER DEI;0GREEK KAPPA SYMBOL;1RHO SYMBOL",
   "3f2;0GREEK LUNATE SIGMA SYMBOL;1LETTER YOT;1CAPITAL THETA SYMBOL;1LUNATE EPSILON SYMBOL",
   "3f6;0GREEK REVERSED LUNATE EPSILON SYMBOL;1CAPITAL LETTER SHO;1SMALL LETTER SHO",
   "3f9;0GREEK CAPITAL LUNATE SIGMA SYMBOL;2LETTER SAN;1SMALL LETTER SAN;1RHO WITH STROKE SYMBOL",
   "3fd;0GREEK CAPITAL REVERSED LUNATE SIGMA SYMBOL;2DOTTED LUNATE SIGMA SYMBOL",
   "3ff;0GREEK CAPITAL REVERSED DOTTED LUNATE SIGMA SYMBOL",
   "400;0CYRILLIC CAPITAL LETTER IE WITH GRAVE;3IO;3DJE;3GJE;3UKRAINIAN IE;3DZE",
   "406;0CYRILLIC CAPITAL LETTER BYELORUSSIAN-UKRAINIAN I;3YI;3JE;3LJE;3NJE;3TSHE;3KJE",
   "40d;0CYRILLIC CAPITAL LETTER I WITH GRAVE;3SHORT U;3DZHE;3A;3BE;3VE;3GHE;3DE;3IE;3ZHE;3ZE;3I",
   "419;0CYRILLIC CAPITAL LETTER SHORT I;3KA;3EL;3EM;3EN;3O;3PE;3ER;3ES;3TE;3U;3EF;3HA;3TSE;3CHE",
   "428;0CYRILLIC CAPITAL LETTER SHA;3SHCHA;3HARD SIGN;3YERU;3SOFT SIGN;3E;3YU;3YA",
   "430;0CYRILLIC SMALL LETTER A;3BE;3VE;3GHE;3DE;3IE;3ZHE;3ZE;3I;3SHORT I;3KA;3EL;3EM;3EN;3O",
   "43f;0CYRILLIC SMALL LETTER PE;3ER;3ES;3TE;3U;3EF;3HA;3TSE;3CHE;3SHA;3SHCHA;3HARD SIGN;3YERU",
   "44c;0CYRILLIC SMALL LETTER SOFT SIGN;3E;3YU;3YA;3IE WITH GRAVE;3IO;3DJE;3GJE;3UKRAINIAN IE",
   "455;0CYRILLIC SMALL LETTER DZE;3BYELORUSSIAN-UKRAINIAN I;3YI;3JE;3LJE;3NJE;3TSHE;3KJE",
   "45d;0CYRILLIC SMALL LETTER I WITH GRAVE;3SHORT U;3DZHE;1CAPITAL LETTER OMEGA",
   "461;0CYRILLIC SMALL LETTER OMEGA;1CAPITAL LETTER YAT;1SMALL LETTER YAT",
   "464;0CYRILLIC CAPITAL LETTER IOTIFIED E;1SMALL LETTER IOTIFIED E;1CAPITAL LETTER LITTLE YUS",
   "467;0CYRILLIC SMALL LETTER LITTLE YUS;1CAPITAL LETTER IOTIFIED LITTLE YUS",
   "469;0CYRILLIC SMALL LETTER IOTIFIED LITTLE YUS;1CAPITAL LETTER BIG YUS;1SMALL LETTER BIG YUS",
   "46c;0CYRILLIC CAPITAL LETTER IOTIFIED BIG YUS;1SMALL LETTER IOTIFIED BIG YUS",
   "46e;0CYRILLIC CAPITAL LETTER KSI;1SMALL LETTER KSI;1CAPITAL LETTER PSI;1SMALL LETTER PSI",
   "472;0CYRILLIC CAPITAL LETTER FITA;1SMALL LETTER FITA;1CAPITAL LETTER IZHITSA",
   "475;0CYRILLIC SMALL LETTER IZHITSA;1CAPITAL LETTER IZHITSA WITH DOUBLE GRAVE ACCENT",
   "477;0CYRILLIC SMALL LETTER IZHITSA WITH DOUBLE GRAVE ACCENT;1CAPITAL LETTER UK",
   "479;0CYRILLIC SMALL LETTER UK;1CAPITAL LETTER ROUND OMEGA;1SMALL LETTER ROUND OMEGA",
   "47c;0CYRILLIC CAPITAL LETTER OMEGA WITH TITLO;1SMALL LETTER OMEGA WITH TITLO",
   "47e;0CYRILLIC CAPITAL LETTER OT;1SMALL LETTER OT;1CAPITAL LETTER KOPPA;1SMALL LETTER KOPPA",
   "482;0CYRILLIC THOUSANDS SIGN;0COMBINING CYRILLIC TITLO;2PALATALIZATION;2DASIA PNEUMATA",
   "486;0COMBINING CYRILLIC PSILI PNEUMATA;2POKRYTIE;2HUNDRED THOUSANDS SIGN;2MILLIONS SIGN",
   "48a;0CYRILLIC CAPITAL LETTER SHORT I WITH TAIL;1SMALL LETTER SHORT I WITH TAIL",
   "48c;0CYRILLIC CAPITAL LETTER SEMISOFT SIGN;1SMALL LETTER SEMISOFT SIGN",
   "48e;0CYRILLIC CAPITAL LETTER ER WITH TICK;1SMALL LETTER ER WITH TICK",
   "490;0CYRILLIC CAPITAL LETTER GHE WITH UPTURN;1SMALL LETTER GHE WITH UPTURN",
   "492;0CYRILLIC CAPITAL LETTER GHE WITH STROKE;1SMALL LETTER GHE WITH STROKE",
   "494;0CYRILLIC CAPITAL LETTER GHE WITH MIDDLE HOOK;1SMALL LETTER GHE WITH MIDDLE HOOK",
   "496;0CYRILLIC CAPITAL LETTER ZHE WITH DESCENDER;1SMALL LETTER ZHE WITH DESCENDER",
   "498;0CYRILLIC CAPITAL LETTER ZE WITH DESCENDER;1SMALL LETTER ZE WITH DESCENDER",
   "49a;0CYRILLIC CAPITAL LETTER KA WITH DESCENDER;1SMALL LETTER KA WITH DESCENDER",
   "49c;0CYRILLIC CAPITAL LETTER KA WITH VERTICAL STROKE;1SMALL LETTER KA WITH VERTICAL STROKE",
   "49e;0CYRILLIC CAPITAL LETTER KA WITH STROKE;1SMALL LETTER KA WITH STROKE",
   "4a0;0CYRILLIC CAPITAL LETTER BASHKIR KA;1SMALL LETTER BASHKIR KA",
   "4a2;0CYRILLIC CAPITAL LETTER EN WITH DESCENDER;1SMALL LETTER EN WITH DESCENDER",
   "4a4;0CYRILLIC CAPITAL LIGATURE EN GHE;1SMALL LIGATURE EN GHE",
   "4a6;0CYRILLIC CAPITAL LETTER PE WITH MIDDLE HOOK;1SMALL LETTER PE WITH MIDDLE HOOK",
   "4a8;0CYRILLIC CAPITAL LETTER ABKHASIAN HA;1SMALL LETTER ABKHASIAN HA",
   "4aa;0CYRILLIC CAPITAL LETTER ES WITH DESCENDER;1SMALL LETTER ES WITH DESCENDER",
   "4ac;0CYRILLIC CAPITAL LETTER TE WITH DESCENDER;1SMALL LETTER TE WITH DESCENDER",
   "4ae;0CYRILLIC CAPITAL LETTER STRAIGHT U;1SMALL LETTER STRAIGHT U",
   "4b0;0CYRILLIC CAPITAL LETTER STRAIGHT U WITH STROKE;1SMALL LETTER STRAIGHT U WITH STROKE",
   "4b2;0CYRILLIC CAPITAL LETTER HA WITH DESCENDER;1SMALL LETTER HA WITH DESCENDER",
   "4b4;0CYRILLIC CAPITAL LIGATURE TE TSE;1SMALL LIGATURE TE TSE",
   "4b6;0CYRILLIC CAPITAL LETTER CHE WITH DESCENDER;1SMALL LETTER CHE WITH DESCENDER",
   "4b8;0CYRILLIC CAPITAL LETTER CHE WITH VERTICAL STROKE;1SMALL LETTER CHE WITH VERTICAL STROKE",
   "4ba;0CYRILLIC CAPITAL LETTER SHHA;1SMALL LETTER SHHA;1CAPITAL LETTER ABKHASIAN CHE",
   "4bd;0CYRILLIC SMALL LETTER ABKHASIAN CHE;1CAPITAL LETTER ABKHASIAN CHE WITH DESCENDER",
   "4bf;0CYRILLIC SMALL LETTER ABKHASIAN CHE WITH DESCENDER;1LETTER PALOCHKA",
   "4c1;0CYRILLIC CAPITAL LETTER ZHE WITH BREVE;1SMALL LETTER ZHE WITH BREVE",
   "4c3;0CYRILLIC CAPITAL LETTER KA WITH HOOK;1SMALL LETTER KA WITH HOOK",
   "4c5;0CYRILLIC CAPITAL LETTER EL WITH TAIL;1SMALL LETTER EL WITH TAIL",
   "4c7;0CYRILLIC CAPITAL LETTER EN WITH HOOK;1SMALL LETTER EN WITH HOOK",
   "4c9;0CYRILLIC CAPITAL LETTER EN WITH TAIL;1SMALL LETTER EN WITH TAIL",
   "4cb;0CYRILLIC CAPITAL LETTER KHAKASSIAN CHE;1SMALL LETTER KHAKASSIAN CHE",
   "4cd;0CYRILLIC CAPITAL LETTER EM WITH TAIL;1SMALL LETTER EM WITH TAIL;3PALOCHKA",
   "4d0;0CYRILLIC CAPITAL LETTER A WITH BREVE;1SMALL LETTER A WITH BREVE",
   "4d2;0CYRILLIC CAPITAL LETTER A WITH DIAERESIS;1SMALL LETTER A WITH DIAERESIS",
   "4d4;0CYRILLIC CAPITAL LIGATURE A IE;1SMALL LIGATURE A IE;1CAPITAL LETTER IE WITH BREVE",
   "4d7;0CYRILLIC SMALL LETTER IE WITH BREVE;1CAPITAL LETTER SCHWA;1SMALL LETTER SCHWA",
   "4da;0CYRILLIC CAPITAL LETTER SCHWA WITH DIAERESIS;1SMALL LETTER SCHWA WITH DIAERESIS",
   "4dc;0CYRILLIC CAPITAL LETTER ZHE WITH DIAERESIS;1SMALL LETTER ZHE WITH DIAERESIS",
   "4de;0CYRILLIC CAPITAL LETTER ZE WITH DIAERESIS;1SMALL LETTER ZE WITH DIAERESIS",
   "4e0;0CYRILLIC CAPITAL LETTER ABKHASIAN DZE;1SMALL LETTER ABKHASIAN DZE",
   "4e2;0CYRILLIC CAPITAL LETTER I WITH MACRON;1SMALL LETTER I WITH MACRON",
   "4e4;0CYRILLIC CAPITAL LETTER I WITH DIAERESIS;1SMALL LETTER I WITH DIAERESIS",
   "4e6;0CYRILLIC CAPITAL LETTER O WITH DIAERESIS;1SMALL LETTER O WITH DIAERESIS",
   "4e8;0CYRILLIC CAPITAL LETTER BARRED O;1SMALL LETTER BARRED O",
   "4ea;0CYRILLIC CAPITAL LETTER BARRED O WITH DIAERESIS;1SMALL LETTER BARRED O WITH DIAERESIS",
   "4ec;0CYRILLIC CAPITAL LETTER E WITH DIAERESIS;1SMALL LETTER E WITH DIAERESIS",
   "4ee;0CYRILLIC CAPITAL LETTER U WITH MACRON;1SMALL LETTER U WITH MACRON",
   "4f0;0CYRILLIC CAPITAL LETTER U WITH DIAERESIS;1SMALL LETTER U WITH DIAERESIS",
   "4f2;0CYRILLIC CAPITAL LETTER U WITH DOUBLE ACUTE;1SMALL LETTER U WITH DOUBLE ACUTE",
   "4f4;0CYRILLIC CAPITAL LETTER CHE WITH DIAERESIS;1SMALL LETTER CHE WITH DIAERESIS",
   "4f6;0CYRILLIC CAPITAL LETTER GHE WITH DESCENDER;1SMALL LETTER GHE WITH DESCENDER",
   "4f8;0CYRILLIC CAPITAL LETTER YERU WITH DIAERESIS;1SMALL LETTER YERU WITH DIAERESIS",
   "4fa;0CYRILLIC CAPITAL LETTER GHE WITH STROKE AND HOOK;1SMALL LETTER GHE WITH STROKE AND HOOK",
   "4fc;0CYRILLIC CAPITAL LETTER HA WITH HOOK;1SMALL LETTER HA WITH HOOK",
   "4fe;0CYRILLIC CAPITAL LETTER HA WITH STROKE;1SMALL LETTER HA WITH STROKE",
   "500;0CYRILLIC CAPITAL LETTER KOMI DE;1SMALL LETTER KOMI DE;1CAPITAL LETTER KOMI DJE",
   "503;0CYRILLIC SMALL LETTER KOMI DJE;1CAPITAL LETTER KOMI ZJE;1SMALL LETTER KOMI ZJE",
   "506;0CYRILLIC CAPITAL LETTER KOMI DZJE;1SMALL LETTER KOMI DZJE;1CAPITAL LETTER KOMI LJE",
   "509;0CYRILLIC SMALL LETTER KOMI LJE;1CAPITAL LETTER KOMI NJE;1SMALL LETTER KOMI NJE",
   "50c;0CYRILLIC CAPITAL LETTER KOMI SJE;1SMALL LETTER KOMI SJE;1CAPITAL LETTER KOMI TJE",
   "50f;0CYRILLIC SMALL LETTER KOMI TJE;1CAPITAL LETTER REVERSED ZE;1SMALL LETTER REVERSED ZE",
   "512;0CYRILLIC CAPITAL LETTER EL WITH HOOK;1SMALL LETTER EL WITH HOOK;1CAPITAL LETTER LHA",
   "515;0CYRILLIC SMALL LETTER LHA;1CAPITAL LETTER RHA;1SMALL LETTER RHA;1CAPITAL LETTER YAE",
   "519;0CYRILLIC SMALL LETTER YAE;1CAPITAL LETTER QA;1SMALL LETTER QA;1CAPITAL LETTER WE",
   "51d;0CYRILLIC SMALL LETTER WE;1CAPITAL LETTER ALEUT KA;1SMALL LETTER ALEUT KA",
   "520;0CYRILLIC CAPITAL LETTER EL WITH MIDDLE HOOK;1SMALL LETTER EL WITH MIDDLE HOOK",
   "522;0CYRILLIC CAPITAL LETTER EN WITH MIDDLE HOOK;1SMALL LETTER EN WITH MIDDLE HOOK",
   "524;0CYRILLIC CAPITAL LETTER PE WITH DESCENDER;1SMALL LETTER PE WITH DESCENDER",
   "526;0CYRILLIC CAPITAL LETTER SHHA WITH DESCENDER;1SMALL LETTER SHHA WITH DESCENDER",
   "528;0CYRILLIC CAPITAL LETTER EN WITH LEFT HOOK;1SMALL LETTER EN WITH LEFT HOOK",
   "52a;0CYRILLIC CAPITAL LETTER DZZHE;1SMALL LETTER DZZHE;1CAPITAL LETTER DCHE",
   "52d;0CYRILLIC SMALL LETTER DCHE;1CAPITAL LETTER EL WITH DESCENDER",
   "52f;0CYRILLIC SMALL LETTER EL WITH DESCENDER",
   "1e00;0LATIN CAPITAL LETTER A WITH RING BELOW;1SMALL LETTER A WITH RING BELOW",
   "1e02;0LATIN CAPITAL LETTER B WITH DOT ABOVE;1SMALL LETTER B WITH DOT ABOVE",
   "1e04;0LATIN CAPITAL LETTER B WITH DOT BELOW;1SMALL LETTER B WITH DOT BELOW",
   "1e06;0LATIN CAPITAL LETTER B WITH LINE BELOW;1SMALL LETTER B WITH LINE BELOW",
   "1e08;0LATIN CAPITAL LETTER C WITH CEDILLA AND ACUTE;1SMALL LETTER C WITH CEDILLA AND ACUTE",
   "1e0a;0LATIN CAPITAL LETTER D WITH DOT ABOVE;1SMALL LETTER D WITH DOT ABOVE",
   "1e0c;0LATIN CAPITAL LETTER D WITH DOT BELOW;1SMALL LETTER D WITH DOT BELOW",
   "1e0e;0LATIN CAPITAL LETTER D WITH LINE BELOW;1SMALL LETTER D WITH LINE BELOW",
   "1e10;0LATIN CAPITAL LETTER D WITH CEDILLA;1SMALL LETTER D WITH CEDILLA",
   "1e12;0LATIN CAPITAL LETTER D WITH CIRCUMFLEX BELOW;1SMALL LETTER D WITH CIRCUMFLEX BELOW",
   "1e14;0LATIN CAPITAL LETTER E WITH MACRON AND GRAVE;1SMALL LETTER E WITH MACRON AND GRAVE",
   "1e16;0LATIN CAPITAL LETTER E WITH MACRON AND ACUTE;1SMALL LETTER E WITH MACRON AND ACUTE",
   "1e18;0LATIN CAPITAL LETTER E WITH CIRCUMFLEX BELOW;1SMALL LETTER E WITH CIRCUMFLEX BELOW",
   "1e1a;0LATIN CAPITAL LETTER E WITH TILDE BELOW;1SMALL LETTER E WITH TILDE BELOW",
   "1e1c;0LATIN CAPITAL LETTER E WITH CEDILLA AND BREVE;1SMALL LETTER E WITH CEDILLA AND BREVE",
   "1e1e;0LATIN CAPITAL LETTER F WITH DOT ABOVE;1SMALL LETTER F WITH DOT ABOVE",
   "1e20;0LATIN CAPITAL LETTER G WITH MACRON;1SMALL LETTER G WITH MACRON",
   "1e22;0LATIN CAPITAL LETTER H WITH DOT ABOVE;1SMALL LETTER H WITH DOT ABOVE",
   "1e24;0LATIN CAPITAL LETTER H WITH DOT BELOW;1SMALL LETTER H WITH DOT BELOW",
   "1e26;0LATIN CAPITAL LETTER H WITH DIAERESIS;1SMALL LETTER H WITH DIAERESIS",
   "1e28;0LATIN CAPITAL LETTER H WITH CEDILLA;1SMALL LETTER H WITH CEDILLA",
   "1e2a;0LATIN CAPITAL LETTER H WITH BREVE BELOW;1SMALL LETTER H WITH BREVE BELOW",
   "1e2c;0LATIN CAPITAL LETTER I WITH TILDE BELOW;1SMALL LETTER I WITH TILDE BELOW",
   "1e2e;0LATIN CAPITAL LETTER I WITH DIAERESIS AND ACUTE",
   "1e2f;0LATIN SMALL LETTER I WITH DIAERESIS AND ACUTE;1CAPITAL LETTER K WITH ACUTE",
   "1e31;0LATIN SMALL LETTER K WITH ACUTE;1CAPITAL LETTER K WITH DOT BELOW",
   "1e33;0LATIN SMALL LETTER K WITH DOT BELOW;1CAPITAL LETTER K WITH LINE BELOW",
   "1e35;0LATIN SMALL LETTER K WITH LINE BELOW;1CAPITAL LETTER L WITH DOT BELOW",
   "1e37;0LATIN SMALL LETTER L WITH DOT BELOW;1CAPITAL LETTER L WITH DOT BELOW AND MACRON",
   "1e39;0LATIN SMALL LETTER L WITH DOT BELOW AND MACRON;1CAPITAL LETTER L WITH LINE BELOW",
   "1e3b;0LATIN SMALL LETTER L WITH LINE BELOW;1CAPITAL LETTER L WITH CIRCUMFLEX BELOW",
   "1e3d;0LATIN SMALL LETTER L WITH CIRCUMFLEX BELOW;1CAPITAL LETTER M WITH ACUTE",
   "1e3f;0LATIN SMALL LETTER M WITH ACUTE;1CAPITAL LETTER M WITH DOT ABOVE",
   "1e41;0LATIN SMALL LETTER M WITH DOT ABOVE;1CAPITAL LETTER M WITH DOT BELOW",
   "1e43;0LATIN SMALL LETTER M WITH DOT BELOW;1CAPITAL LETTER N WITH DOT ABOVE",
   "1e45;0LATIN SMALL LETTER N WITH DOT ABOVE;1CAPITAL LETTER N WITH DOT BELOW",
   "1e47;0LATIN SMALL LETTER N WITH DOT BELOW;1CAPITAL LETTER N WITH LINE BELOW",
   "1e49;0LATIN SMALL LETTER N WITH LINE BELOW;1CAPITAL LETTER N WITH CIRCUMFLEX BELOW",
   "1e4b;0LATIN SMALL LETTER N WITH CIRCUMFLEX BELOW;1CAPITAL LETTER O WITH TILDE AND ACUTE",
   "1e4d;0LATIN SMALL LETTER O WITH TILDE AND ACUTE;1CAPITAL LETTER O WITH TILDE AND DIAERESIS",
   "1e4f;0LATIN SMALL LETTER O WITH TILDE AND DIAERESIS;1CAPITAL LETTER O WITH MACRON AND GRAVE",
   "1e51;0LATIN SMALL LETTER O WITH MACRON AND GRAVE;1CAPITAL LETTER O WITH MACRON AND ACUTE",
   "1e53;0LATIN SMALL LETTER O WITH MACRON AND ACUTE;1CAPITAL LETTER P WITH ACUTE",
   "1e55;0LATIN SMALL LETTER P WITH ACUTE;1CAPITAL LETTER P WITH DOT ABOVE",
   "1e57;0LATIN SMALL LETTER P WITH DOT ABOVE;1CAPITAL LETTER R WITH DOT ABOVE",
   "1e59;0LATIN SMALL LETTER R WITH DOT ABOVE;1CAPITAL LETTER R WITH DOT BELOW",
   "1e5b;0LATIN SMALL LETTER R WITH DOT BELOW;1CAPITAL LETTER R WITH DOT BELOW AND MACRON",
   "1e5d;0LATIN SMALL LETTER R WITH DOT BELOW AND MACRON;1CAPITAL LETTER R WITH LINE BELOW",
   "1e5f;0LATIN SMALL LETTER R WITH LINE BELOW;1CAPITAL LETTER S WITH DOT ABOVE",
   "1e61;0LATIN SMALL LETTER S WITH DOT ABOVE;1CAPITAL LETTER S WITH DOT BELOW",
   "1e63;0LATIN SMALL LETTER S WITH DOT BELOW;1CAPITAL LETTER S WITH ACUTE AND DOT ABOVE",
   "1e65;0LATIN SMALL LETTER S WITH ACUTE AND DOT ABOVE",
   "1e66;0LATIN CAPITAL LETTER S WITH CARON AND DOT ABOVE",
   "1e67;0LATIN SMALL LETTER S WITH CARON AND DOT ABOVE",
   "1e68;0LATIN CAPITAL LETTER S WITH DOT BELOW AND DOT ABOVE",
   "1e69;0LATIN SMALL LETTER S WITH DOT BELOW AND DOT ABOVE;1CAPITAL LETTER T WITH DOT ABOVE",
   "1e6b;0LATIN SMALL LETTER T WITH DOT ABOVE;1CAPITAL LETTER T WITH DOT BELOW",
   "1e6d;0LATIN SMALL LETTER T WITH DOT BELOW;1CAPITAL LETTER T WITH LINE BELOW",
   "1e6f;0LATIN SMALL LETTER T WITH LINE BELOW;1CAPITAL LETTER T WITH CIRCUMFLEX BELOW",
   "1e71;0LATIN SMALL LETTER T WITH CIRCUMFLEX BELOW;1CAPITAL LETTER U WITH DIAERESIS BELOW",
   "1e73;0LATIN SMALL LETTER U WITH DIAERESIS BELOW;1CAPITAL LETTER U WITH TILDE BELOW",
   "1e75;0LATIN SMALL LETTER U WITH TILDE BELOW;1CAPITAL LETTER U WITH CIRCUMFLEX BELOW",
   "1e77;0LATIN SMALL LETTER U WITH CIRCUMFLEX BELOW;1CAPITAL LETTER U WITH TILDE AND ACUTE",
   "1e79;0LATIN SMALL LETTER U WITH TILDE AND ACUTE;1CAPITAL LETTER U WITH MACRON AND DIAERESIS",
   "1e7b;0LATIN SMALL LETTER U WITH MACRON AND DIAERESIS;1CAPITAL LETTER V WITH TILDE",
   "1e7d;0LATIN SMALL LETTER V WITH TILDE;1CAPITAL LETTER V WITH DOT BELOW",
   "1e7f;0LATIN SMALL LETTER V WITH DOT BELOW;1CAPITAL LETTER W WITH GRAVE",
   "1e81;0LATIN SMALL LETTER W WITH GRAVE;1CAPITAL LETTER W WITH ACUTE",
   "1e83;0LATIN SMALL LETTER W WITH ACUTE;1CAPITAL LETTER W WITH DIAERESIS",
   "1e85;0LATIN SMALL LETTER W WITH DIAERESIS;1CAPITAL LETTER W WITH DOT ABOVE",
   "1e87;0LATIN SMALL LETTER W WITH DOT ABOVE;1CAPITAL LETTER W WITH DOT BELOW",
   "1e89;0LATIN SMALL LETTER W WITH DOT BELOW;1CAPITAL LETTER X WITH DOT ABOVE",
   "1e8b;0LATIN SMALL LETTER X WITH DOT ABOVE;1CAPITAL LETTER X WITH DIAERESIS",
   "1e8d;0LATIN SMALL LETTER X WITH DIAERESIS;1CAPITAL LETTER Y WITH DOT ABOVE",
   "1e8f;0LATIN SMALL LETTER Y WITH DOT ABOVE;1CAPITAL LETTER Z WITH CIRCUMFLEX",
   "1e91;0LATIN SMALL LETTER Z WITH CIRCUMFLEX;1CAPITAL LETTER Z WITH DOT BELOW",
   "1e93;0LATIN SMALL LETTER Z WITH DOT BELOW;1CAPITAL LETTER Z WITH LINE BELOW",
   "1e95;0LATIN SMALL LETTER Z WITH LINE BELOW;3H WITH LINE BELOW;3T WITH DIAERESIS",
   "1e98;0LATIN SMALL LETTER W WITH RING ABOVE;3Y WITH RING ABOVE;3A WITH RIGHT HALF RING",
   "1e9b;0LATIN SMALL LETTER LONG S WITH DOT ABOVE;6DIAGONAL STROKE;6HIGH STROKE",
   "1e9e;0LATIN CAPITAL LETTER SHARP S;1SMALL LETTER DELTA;1CAPITAL LETTER A WITH DOT BELOW",
   "1ea1;0LATIN SMALL LETTER A WITH DOT BELOW;1CAPITAL LETTER A WITH HOOK ABOVE",
   "1ea3;0LATIN SMALL LETTER A WITH HOOK ABOVE;1CAPITAL LETTER A WITH CIRCUMFLEX AND ACUTE",
   "1ea5;0LATIN SMALL LETTER A WITH CIRCUMFLEX AND ACUTE",
   "1ea6;0LATIN CAPITAL LETTER A WITH CIRCUMFLEX AND GRAVE",
   "1ea7;0LATIN SMALL LETTER A WITH CIRCUMFLEX AND GRAVE",
   "1ea8;0LATIN CAPITAL LETTER A WITH CIRCUMFLEX AND HOOK ABOVE",
   "1ea9;0LATIN SMALL LETTER A WITH CIRCUMFLEX AND HOOK ABOVE",
   "1eaa;0LATIN CAPITAL LETTER A WITH CIRCUMFLEX AND TILDE",
   "1eab;0LATIN SMALL LETTER A WITH CIRCUMFLEX AND TILDE",
   "1eac;0LATIN CAPITAL LETTER A WITH CIRCUMFLEX AND DOT BELOW",
   "1ead;0LATIN SMALL LETTER A WITH CIRCUMFLEX AND DOT BELOW",
   "1eae;0LATIN CAPITAL LETTER A WITH BREVE AND ACUTE;1SMALL LETTER A WITH BREVE AND ACUTE",
   "1eb0;0LATIN CAPITAL LETTER A WITH BREVE AND GRAVE;1SMALL LETTER A WITH BREVE AND GRAVE",
   "1eb2;0LATIN CAPITAL LETTER A WITH BREVE AND HOOK ABOVE",
   "1eb3;0LATIN SMALL LETTER A WITH BREVE AND HOOK ABOVE;1CAPITAL LETTER A WITH BREVE AND TILDE",
   "1eb5;0LATIN SMALL LETTER A WITH BREVE AND TILDE;1CAPITAL LETTER A WITH BREVE AND DOT BELOW",
   "1eb7;0LATIN SMALL LETTER A WITH BREVE AND DOT BELOW;1CAPITAL LETTER E WITH DOT BELOW",
   "1eb9;0LATIN SMALL LETTER E WITH DOT BELOW;1CAPITAL LETTER E WITH HOOK ABOVE",
   "1ebb;0LATIN SMALL LETTER E WITH HOOK ABOVE;1CAPITAL LETTER E WITH TILDE",
   "1ebd;0LATIN SMALL LETTER E WITH TILDE;1CAPITAL LETTER E WITH CIRCUMFLEX AND ACUTE",
   "1ebf;0LATIN SMALL LETTER E WITH CIRCUMFLEX AND ACUTE",
   "1ec0;0LATIN CAPITAL LETTER E WITH CIRCUMFLEX AND GRAVE",
   "1ec1;0LATIN SMALL LETTER E WITH CIRCUMFLEX AND GRAVE",
   "1ec2;0LATIN CAPITAL LETTER E WITH CIRCUMFLEX AND HOOK ABOVE",
   "1ec3;0LATIN SMALL LETTER E WITH CIRCUMFLEX AND HOOK ABOVE",
   "1ec4;0LATIN CAPITAL LETTER E WITH CIRCUMFLEX AND TILDE",
   "1ec5;0LATIN SMALL LETTER E WITH CIRCUMFLEX AND TILDE",
   "1ec6;0LATIN CAPITAL LETTER E WITH CIRCUMFLEX AND DOT BELOW",
   "1ec7;0LATIN SMALL LETTER E WITH CIRCUMFLEX AND DOT BELOW;1CAPITAL LETTER I WITH HOOK ABOVE",
   "1ec9;0LATIN SMALL LETTER I WITH HOOK ABOVE;1CAPITAL LETTER I WITH DOT BELOW",
   "1ecb;0LATIN SMALL LETTER I WITH DOT BELOW;1CAPITAL LETTER O WITH DOT BELOW",
   "1ecd;0LATIN SMALL LETTER O WITH DOT BELOW;1CAPITAL LETTER O WITH HOOK ABOVE",
   "1ecf;0LATIN SMALL LETTER O WITH HOOK ABOVE;1CAPITAL LETTER O WITH CIRCUMFLEX AND ACUTE",
   "1ed1;0LATIN SMALL LETTER O WITH CIRCUMFLEX AND ACUTE",
   "1ed2;0LATIN CAPITAL LETTER O WITH CIRCUMFLEX AND GRAVE",
   "1ed3;0LATIN SMALL LETTER O WITH CIRCUMFLEX AND GRAVE",
   "1ed4;0LATIN CAPITAL LETTER O WITH CIRCUMFLEX AND HOOK ABOVE",
   "1ed5;0LATIN SMALL LETTER O WITH CIRCUMFLEX AND HOOK ABOVE",
   "1ed6;0LATIN CAPITAL LETTER O WITH CIRCUMFLEX AND TILDE",
   "1ed7;0LATIN SMALL LETTER O WITH CIRCUMFLEX AND TILDE",
   "1ed8;0LATIN CAPITAL LETTER O WITH CIRCUMFLEX AND DOT BELOW",
   "1ed9;0LATIN SMALL LETTER O WITH CIRCUMFLEX AND DOT BELOW",
   "1eda;0LATIN CAPITAL LETTER O WITH HORN AND ACUTE;1SMALL LETTER O WITH HORN AND ACUTE",
   "1edc;0LATIN CAPITAL LETTER O WITH HORN AND GRAVE;1SMALL LETTER O WITH HORN AND GRAVE",
   "1ede;0LATIN CAPITAL LETTER O WITH HORN AND HOOK ABOVE",
   "1edf;0LATIN SMALL LETTER O WITH HORN AND HOOK ABOVE;1CAPITAL LETTER O WITH HORN AND TILDE",
   "1ee1;0LATIN SMALL LETTER O WITH HORN AND TILDE;1CAPITAL LETTER O WITH HORN AND DOT BELOW",
   "1ee3;0LATIN SMALL LETTER O WITH HORN AND DOT BELOW;1CAPITAL LETTER U WITH DOT BELOW",
   "1ee5;0LATIN SMALL LETTER U WITH DOT BELOW;1CAPITAL LETTER U WITH HOOK ABOVE",
   "1ee7;0LATIN SMALL LETTER U WITH HOOK ABOVE;1CAPITAL LETTER U WITH HORN AND ACUTE",
   "1ee9;0LATIN SMALL LETTER U WITH HORN AND ACUTE;1CAPITAL LETTER U WITH HORN AND GRAVE",
   "1eeb;0LATIN SMALL LETTER U WITH HORN AND GRAVE;1CAPITAL LETTER U WITH HORN AND HOOK ABOVE",
   "1eed;0LATIN SMALL LETTER U WITH HORN AND HOOK ABOVE;1CAPITAL LETTER U WITH HORN AND TILDE",
   "1eef;0LATIN SMALL LETTER U WITH HORN AND TILDE;1CAPITAL LETTER U WITH HORN AND DOT BELOW",
   "1ef1;0LATIN SMALL LETTER U WITH HORN AND DOT BELOW;1CAPITAL LETTER Y WITH GRAVE",
   "1ef3;0LATIN SMALL LETTER Y WITH GRAVE;1CAPITAL LETTER Y WITH DOT BELOW",
   "1ef5;0LATIN SMALL LETTER Y WITH DOT BELOW;1CAPITAL LETTER Y WITH HOOK ABOVE",
   "1ef7;0LATIN SMALL LETTER Y WITH HOOK ABOVE;1CAPITAL LETTER Y WITH TILDE",
   "1ef9;0LATIN SMALL LETTER Y WITH TILDE;1CAPITAL LETTER MIDDLE-WELSH LL",
   "1efb;0LATIN SMALL LETTER MIDDLE-WELSH LL;1CAPITAL LETTER MIDDLE-WELSH V",
   "1efd;0LATIN SMALL LETTER MIDDLE-WELSH V;1CAPITAL LETTER Y WITH LOOP",
   "1eff;0LATIN SMALL LETTER Y WITH LOOP;0GREEK SMALL LETTER ALPHA WITH PSILI;5DASIA",
   "1f02;0GREEK SMALL LETTER ALPHA WITH PSILI AND VARIA;5DASIA AND VARIA;5PSILI AND OXIA",
   "1f05;0GREEK SMALL LETTER ALPHA WITH DASIA AND OXIA;5PSILI AND PERISPOMENI",
   "1f07;0GREEK SMALL LETTER ALPHA WITH DASIA AND PERISPOMENI;1CAPITAL LETTER ALPHA WITH PSILI",
   "1f09;0GREEK CAPITAL LETTER ALPHA WITH DASIA;5PSILI AND VARIA;5DASIA AND VARIA",
   "1f0c;0GREEK CAPITAL LETTER ALPHA WITH PSILI AND OXIA;5DASIA AND OXIA;5PSILI AND PERISPOMENI",
   "1f0f;0GREEK CAPITAL LETTER ALPHA WITH DASIA AND PERISPOMENI;1SMALL LETTER EPSILON WITH PSILI",
   "1f11;0GREEK SMALL LETTER EPSILON WITH DASIA;5PSILI AND VARIA;5DASIA AND VARIA",
   "1f14;0GREEK SMALL LETTER EPSILON WITH PSILI AND OXIA;5DASIA AND OXIA",
   "1f18;0GREEK CAPITAL LETTER EPSILON WITH PSILI;5DASIA;5PSILI AND VARIA;5DASIA AND VARIA",
   "1f1c;0GREEK CAPITAL LETTER EPSILON WITH PSILI AND OXIA;5DASIA AND OXIA",
   "1f20;0GREEK SMALL LETTER ETA WITH PSILI;5DASIA;5PSILI AND VARIA;5DASIA AND VARIA",
   "1f24;0GREEK SMALL LETTER ETA WITH PSILI AND OXIA;5DASIA AND OXIA;5PSILI AND PERISPOMENI",
   "1f27;0GREEK SMALL LETTER ETA WITH DASIA AND PERISPOMENI;1CAPITAL LETTER ETA WITH PSILI",
   "1f29;0GREEK CAPITAL LETTER ETA WITH DASIA;5PSILI AND VARIA;5DASIA AND VARIA;5PSILI AND OXIA",
   "1f2d;0GREEK CAPITAL LETTER ETA WITH DASIA AND OXIA;5PSILI AND PERISPOMENI",
   "1f2f;0GREEK CAPITAL LETTER ETA WITH DASIA AND PERISPOMENI;1SMALL LETTER IOTA WITH PSILI",
   "1f31;0GREEK SMALL LETTER IOTA WITH DASIA;5PSILI AND VARIA;5DASIA AND VARIA;5PSILI AND OXIA",
   "1f35;0GREEK SMALL LETTER IOTA WITH DASIA AND OXIA;5PSILI AND PERISPOMENI",
   "1f37;0GREEK SMALL LETTER IOTA WITH DASIA AND PERISPOMENI;1CAPITAL LETTER IOTA WITH PSILI",
   "1f39;0GREEK CAPITAL LETTER IOTA WITH DASIA;5PSILI AND VARIA;5DASIA AND VARIA;5PSILI AND OXIA",
   "1f3d;0GREEK CAPITAL LETTER IOTA WITH DASIA AND OXIA;5PSILI AND PERISPOMENI",
   "1f3f;0GREEK CAPITAL LETTER IOTA WITH DASIA AND PERISPOMENI;1SMALL LETTER OMICRON WITH PSILI",
   "1f41;0GREEK SMALL LETTER OMICRON WITH DASIA;5PSILI AND VARIA;5DASIA AND VARIA",
   "1f44;0GREEK SMALL LETTER OMICRON WITH PSILI AND OXIA;5DASIA AND OXIA",
   "1f48;0GREEK CAPITAL LETTER OMICRON WITH PSILI;5DASIA;5PSILI AND VARIA;5DASIA AND VARIA",
   "1f4c;0GREEK CAPITAL LETTER OMICRON WITH PSILI AND OXIA;5DASIA AND OXIA",
   "1f50;0GREEK SMALL LETTER UPSILON WITH PSILI;5DASIA;5PSILI AND VARIA;5DASIA AND VARIA",
   "1f54;0GREEK SMALL LETTER UPSILON WITH PSILI AND OXIA;5DASIA AND OXIA;5PSILI AND PERISPOMENI",
   "1f57;0GREEK SMALL LETTER UPSILON WITH DASIA AND PERISPOMENI",
   "1f59;0GREEK CAPITAL LETTER UPSILON WITH DASIA",
   "1f5b;0GREEK CAPITAL LETTER UPSILON WITH DASIA AND VARIA",
   "1f5d;0GREEK CAPITAL LETTER UPSILON WITH DASIA AND OXIA",
   "1f5f;0GREEK CAPITAL LETTER UPSILON WITH DASIA AND PERISPOMENI;1SMALL LETTER OMEGA WITH PSILI",
   "1f61;0GREEK SMALL LETTER OMEGA WITH DASIA;5PSILI AND VARIA;5DASIA AND VARIA;5PSILI AND OXIA",
   "1f65;0GREEK SMALL LETTER OMEGA WITH DASIA AND OXIA;5PSILI AND PERISPOMENI",
   "1f67;0GREEK SMALL LETTER OMEGA WITH DASIA AND PERISPOMENI;1CAPITAL LETTER OMEGA WITH PSILI",
   "1f69;0GREEK CAPITAL LETTER OMEGA WITH DASIA;5PSILI AND VARIA;5DASIA AND VARIA",
   "1f6c;0GREEK CAPITAL LETTER OMEGA WITH PSILI AND OXIA;5DASIA AND OXIA;5PSILI AND PERISPOMENI",
   "1f6f;0GREEK CAPITAL LETTER OMEGA WITH DASIA AND PERISPOMENI;1SMALL LETTER ALPHA WITH VARIA",
   "1f71;0GREEK SMALL LETTER ALPHA WITH OXIA;3EPSILON WITH VARIA;5OXIA;3ETA WITH VARIA;5OXIA",
   "1f76;0GREEK SMALL LETTER IOTA WITH VARIA;5OXIA;3OMICRON WITH VARIA;5OXIA;3UPSILON WITH VARIA",
   "1f7b;0GREEK SMALL LETTER UPSILON WITH OXIA;3OMEGA WITH VARIA;5OXIA",
   "1f80;0GREEK SMALL LETTER ALPHA WITH PSILI AND YPOGEGRAMMENI;5DASIA AND YPOGEGRAMMENI",
   "1f82;0GREEK SMALL LETTER ALPHA WITH PSILI AND VARIA AND YPOGEGRAMMENI",
   "1f83;0GREEK SMALL LETTER ALPHA WITH DASIA AND VARIA AND YPOGEGRAMMENI",
   "1f84;0GREEK SMALL LETTER ALPHA WITH PSILI AND OXIA AND YPOGEGRAMMENI",
   "1f85;0GREEK SMALL LETTER ALPHA WITH DASIA AND OXIA AND YPOGEGRAMMENI",
   "1f86;0GREEK SMALL LETTER ALPHA WITH PSILI AND PERISPOMENI AND YPOGEGRAMMENI",
   "1f87;0GREEK SMALL LETTER ALPHA WITH DASIA AND PERISPOMENI AND YPOGEGRAMMENI",
   "1f88;0GREEK CAPITAL LETTER ALPHA WITH PSILI AND PROSGEGRAMMENI;5DASIA AND PROSGEGRAMMENI",
   "1f8a;0GREEK CAPITAL LETTER ALPHA WITH PSILI AND VARIA AND PROSGEGRAMMENI",
   "1f8b;0GREEK CAPITAL LETTER ALPHA WITH DASIA AND VARIA AND PROSGEGRAMMENI",
   "1f8c;0GREEK CAPITAL LETTER ALPHA WITH PSILI AND OXIA AND PROSGEGRAMMENI",
   "1f8d;0GREEK CAPITAL LETTER ALPHA WITH DASIA AND OXIA AND PROSGEGRAMMENI",
   "1f8e;0GREEK CAPITAL LETTER ALPHA WITH PSILI AND PERISPOMENI AND PROSGEGRAMMENI",
   "1f8f;0GREEK CAPITAL LETTER ALPHA WITH DASIA AND PERISPOMENI AND PROSGEGRAMMENI",
   "1f90;0GREEK SMALL LETTER ETA WITH PSILI AND YPOGEGRAMMENI;5DASIA AND YPOGEGRAMMENI",
   "1f92;0GREEK SMALL LETTER ETA WITH PSILI AND VARIA AND YPOGEGRAMMENI",
   "1f93;0GREEK SMALL LETTER ETA WITH DASIA AND VARIA AND YPOGEGRAMMENI",
   "1f94;0GREEK SMALL LETTER ETA WITH PSILI AND OXIA AND YPOGEGRAMMENI",
   "1f95;0GREEK SMALL LETTER ETA WITH DASIA AND OXIA AND YPOGEGRAMMENI",
   "1f96;0GREEK SMALL LETTER ETA WITH PSILI AND PERISPOMENI AND YPOGEGRAMMENI",
   "1f97;0GREEK SMALL LETTER ETA WITH DASIA AND PERISPOMENI AND YPOGEGRAMMENI",
   "1f98;0GREEK CAPITAL LETTER ETA WITH PSILI AND PROSGEGRAMMENI;5DASIA AND PROSGEGRAMMENI",
   "1f9a;0GREEK CAPITAL LETTER ETA WITH PSILI AND VARIA AND PROSGEGRAMMENI",
   "1f9b;0GREEK CAPITAL LETTER ETA WITH DASIA AND VARIA AND PROSGEGRAMMENI",
   "1f9c;0GREEK CAPITAL LETTER ETA WITH PSILI AND OXIA AND PROSGEGRAMMENI",
   "1f9d;0GREEK CAPITAL LETTER ETA WITH DASIA AND OXIA AND PROSGEGRAMMENI",
   "1f9e;0GREEK CAPITAL LETTER ETA WITH PSILI AND PERISPOMENI AND PROSGEGRAMMENI",
   "1f9f;0GREEK CAPITAL LETTER ETA WITH DASIA AND PERISPOMENI AND PROSGEGRAMMENI",
   "1fa0;0GREEK SMALL LETTER OMEGA WITH PSILI AND YPOGEGRAMMENI;5DASIA AND YPOGEGRAMMENI",
   "1fa2;0GREEK SMALL LETTER OMEGA WITH PSILI AND VARIA AND YPOGEGRAMMENI",
   "1fa3;0GREEK SMALL LETTER OMEGA WITH DASIA AND VARIA AND YPOGEGRAMMENI",
   "1fa4;0GREEK SMALL LETTER OMEGA WITH PSILI AND OXIA AND YPOGEGRAMMENI",
   "1fa5;0GREEK SMALL LETTER OMEGA WITH DASIA AND OXIA AND YPOGEGRAMMENI",
   "1fa6;0GREEK SMALL LETTER OMEGA WITH PSILI AND PERISPOMENI AND YPOGEGRAMMENI",
   "1fa7;0GREEK SMALL LETTER OMEGA WITH DASIA AND PERISPOMENI AND YPOGEGRAMMENI",
   "1fa8;0GREEK CAPITAL LETTER OMEGA WITH PSILI AND PROSGEGRAMMENI;5DASIA AND PROSGEGRAMMENI",
   "1faa;0GREEK CAPITAL LETTER OMEGA WITH PSILI AND VARIA AND PROSGEGRAMMENI",
   "1fab;0GREEK CAPITAL LETTER OMEGA WITH DASIA AND VARIA AND PROSGEGRAMMENI",
   "1fac;0GREEK CAPITAL LETTER OMEGA WITH PSILI AND OXIA AND PROSGEGRAMMENI",
   "1fad;0GREEK CAPITAL LETTER OMEGA WITH DASIA AND OXIA AND PROSGEGRAMMENI",
   "1fae;0GREEK CAPITAL LETTER OMEGA WITH PSILI AND PERISPOMENI AND PROSGEGRAMMENI",
   "1faf;0GREEK CAPITAL LETTER OMEGA WITH DASIA AND PERISPOMENI AND PROSGEGRAMMENI",
   "1fb0;0GREEK SMALL LETTER ALPHA WITH VRACHY;5MACRON;5VARIA AND YPOGEGRAMMENI;5YPOGEGRAMMENI",
   "1fb4;0GREEK SMALL LETTER ALPHA WITH OXIA AND YPOGEGRAMMENI",
   "1fb6;0GREEK SMALL LETTER ALPHA WITH PERISPOMENI;6AND YPOGEGRAMMENI",
   "1fb8;0GREEK CAPITAL LETTER ALPHA WITH VRACHY;5MACRON;5VARIA;5OXIA;5PROSGEGRAMMENI;1KORONIS",
   "1fbe;0GREEK PROSGEGRAMMENI;1PSILI;1PERISPOMENI;1DIALYTIKA AND PERISPOMENI",
   "1fc2;0GREEK SMALL LETTER ETA WITH VARIA AND YPOGEGRAMMENI;5YPOGEGRAMMENI",
   "1fc4;0GREEK SMALL LETTER ETA WITH OXIA AND YPOGEGRAMMENI",
   "1fc6;0GREEK SMALL LETTER ETA WITH PERISPOMENI;6AND YPOGEGRAMMENI",
   "1fc8;0GREEK CAPITAL LETTER EPSILON WITH VARIA;5OXIA;3ETA WITH VARIA;5OXIA;5PROSGEGRAMMENI",
   "1fcd;0GREEK PSILI AND VARIA;3OXIA;3PERISPOMENI;1SMALL LETTER IOTA WITH VRACHY;5MACRON",
   "1fd2;0GREEK SMALL LETTER IOTA WITH DIALYTIKA AND VARIA;7OXIA",
   "1fd6;0GREEK SMALL LETTER IOTA WITH PERISPOMENI;5DIALYTIKA AND PERISPOMENI",
   "1fd8;0GREEK CAPITAL LETTER IOTA WITH VRACHY;5MACRON;5VARIA;5OXIA",
   "1fdd;0GREEK DASIA AND VARIA;3OXIA;3PERISPOMENI;1SMALL LETTER UPSILON WITH VRACHY;5MACRON",
   "1fe2;0GREEK SMALL LETTER UPSILON WITH DIALYTIKA AND VARIA;7OXIA;3RHO WITH PSILI;5DASIA",
   "1fe6;0GREEK SMALL LETTER UPSILON WITH PERISPOMENI;5DIALYTIKA AND PERISPOMENI",
   "1fe8;0GREEK CAPITAL LETTER UPSILON WITH VRACHY;5MACRON;5VARIA;5OXIA;3RHO WITH DASIA",
   "1fed;0GREEK DIALYTIKA AND VARIA;3OXIA;1VARIA",
   "1ff2;0GREEK SMALL LETTER OMEGA WITH VARIA AND YPOGEGRAMMENI;5YPOGEGRAMMENI",
   "1ff4;0GREEK SMALL LETTER OMEGA WITH OXIA AND YPOGEGRAMMENI",
   "1ff6;0GREEK SMALL LETTER OMEGA WITH PERISPOMENI;6AND YPOGEGRAMMENI",
   "1ff8;0GREEK CAPITAL LETTER OMICRON WITH VARIA;5OXIA;3OMEGA WITH VARIA;5OXIA;5PROSGEGRAMMENI",
   "1ffd;0GREEK OXIA;1DASIA",
   "2000;0EN QUAD;0EM QUAD;0EN SPACE;0EM SPACE;0THREE-PER-EM SPACE;0FOUR-PER-EM SPACE",
   "2006;0SIX-PER-EM SPACE;0FIGURE SPACE;0PUNCTUATION SPACE;0THIN SPACE;0HAIR SPACE",
   "200b;0ZERO WIDTH SPACE;2NON-JOINER;2JOINER;0LEFT-TO-RIGHT MARK;0RIGHT-TO-LEFT MARK;0HYPHEN",
   "2011;0NON-BREAKING HYPHEN;0FIGURE DASH;0EN DASH;0EM DASH;0HORIZONTAL BAR",
   "2016;0DOUBLE VERTICAL LINE;1LOW LINE;0LEFT SINGLE QUOTATION MARK",
   "2019;0RIGHT SINGLE QUOTATION MARK;0SINGLE LOW-9 QUOTATION MARK",
   "201b;0SINGLE HIGH-REVERSED-9 QUOTATION MARK;0LEFT DOUBLE QUOTATION MARK",
   "201d;0RIGHT DOUBLE QUOTATION MARK;0DOUBLE LOW-9 QUOTATION MARK",
   "201f;0DOUBLE HIGH-REVERSED-9 QUOTATION MARK;0DAGGER;0DOUBLE DAGGER;0BULLET",
   "2023;0TRIANGULAR BULLET;0ONE DOT LEADER;0TWO DOT LEADER;0HORIZONTAL ELLIPSIS",
   "2027;0HYPHENATION POINT;0LINE SEPARATOR;0PARAGRAPH SEPARATOR;0LEFT-TO-RIGHT EMBEDDING",
   "202b;0RIGHT-TO-LEFT EMBEDDING;0POP DIRECTIONAL FORMATTING;0LEFT-TO-RIGHT OVERRIDE",
   "202e;0RIGHT-TO-LEFT OVERRIDE;0NARROW NO-BREAK SPACE;0PER MILLE SIGN;1TEN THOUSAND SIGN",
   "2032;0PRIME;0DOUBLE PRIME;0TRIPLE PRIME;0REVERSED PRIME;1DOUBLE PRIME;1TRIPLE PRIME;0CARET",
   "2039;0SINGLE LEFT-POINTING ANGLE QUOTATION MARK;1RIGHT-POINTING ANGLE QUOTATION MARK",
   "203b;0REFERENCE MARK;0DOUBLE EXCLAMATION MARK;0INTERROBANG;0OVERLINE;0UNDERTIE",
   "2040;0CHARACTER TIE;0CARET INSERTION POINT;0ASTERISM;0HYPHEN BULLET;0FRACTION SLASH",
   "2045;0LEFT SQUARE BRACKET WITH QUILL;0RIGHT SQUARE BRACKET WITH QUILL;0DOUBLE QUESTION MARK",
   "2048;0QUESTION EXCLAMATION MARK;0EXCLAMATION QUESTION MARK;0TIRONIAN SIGN ET",
   "204b;0REVERSED PILCROW SIGN;0BLACK LEFTWARDS BULLET;1RIGHTWARDS BULLET;0LOW ASTERISK",
   "204f;0REVERSED SEMICOLON;0CLOSE UP;0TWO ASTERISKS ALIGNED VERTICALLY;0COMMERCIAL MINUS SIGN",
   "2053;0SWUNG DASH;0INVERTED UNDERTIE;0FLOWER PUNCTUATION MARK;0THREE DOT PUNCTUATION",
   "2057;0QUADRUPLE PRIME;0FOUR DOT PUNCTUATION;0FIVE DOT PUNCTUATION;0TWO DOT PUNCTUATION",
   "205b;0FOUR DOT MARK;0DOTTED CROSS;0TRICOLON;0VERTICAL FOUR DOTS;0MEDIUM MATHEMATICAL SPACE",
   "2060;0WORD JOINER;0FUNCTION APPLICATION;0INVISIBLE TIMES;1SEPARATOR;1PLUS",
   "2066;0LEFT-TO-RIGHT ISOLATE;0RIGHT-TO-LEFT ISOLATE;0FIRST STRONG ISOLATE",
   "2069;0POP DIRECTIONAL ISOLATE;0INHIBIT SYMMETRIC SWAPPING;0ACTIVATE SYMMETRIC SWAPPING",
   "206c;0INHIBIT ARABIC FORM SHAPING;0ACTIVATE ARABIC FORM SHAPING;0NATIONAL DIGIT SHAPES",
   "206f;0NOMINAL DIGIT SHAPES;0SUPERSCRIPT ZERO;1LATIN SMALL LETTER I",
   "2074;0SUPERSCRIPT FOUR;1FIVE;1SIX;1SEVEN;1EIGHT;1NINE;1PLUS SIGN;1MINUS;1EQUALS SIGN",
   "207d;0SUPERSCRIPT LEFT PARENTHESIS;1RIGHT PARENTHESIS;1LATIN SMALL LETTER N;0SUBSCRIPT ZERO",
   "2081;0SUBSCRIPT ONE;1TWO;1THREE;1FOUR;1FIVE;1SIX;1SEVEN;1EIGHT;1NINE;1PLUS SIGN;1MINUS",
   "208c;0SUBSCRIPT EQUALS SIGN;1LEFT PARENTHESIS;1RIGHT PARENTHESIS",
   "2090;0LATIN SUBSCRIPT SMALL LETTER A;4E;4O;4X;4SCHWA;4H;4K;4L;4M;4N;4P;4S;4T",
   "20a0;0EURO-CURRENCY SIGN;0COLON SIGN;0CRUZEIRO SIGN;0FRENCH FRANC SIGN;0LIRA SIGN;0MILL SIGN",
   "20a6;0NAIRA SIGN;0PESETA SIGN;0RUPEE SIGN;0WON SIGN;0NEW SHEQEL SIGN;0DONG SIGN;0EURO SIGN",
   "20ad;0KIP SIGN;0TUGRIK SIGN;0DRACHMA SIGN;0GERMAN PENNY SIGN;0PESO SIGN;0GUARANI SIGN",
   "20b3;0AUSTRAL SIGN;0HRYVNIA SIGN;0CEDI SIGN;0LIVRE TOURNOIS SIGN;0SPESMILO SIGN;0TENGE SIGN",
   "20b9;0INDIAN RUPEE SIGN;0TURKISH LIRA SIGN;0NORDIC MARK SIGN;0MANAT SIGN;0RUBLE SIGN",
   "20be;0LARI SIGN;0BITCOIN SIGN;0SOM SIGN",
   "20d0;0COMBINING LEFT HARPOON ABOVE;1RIGHT HARPOON ABOVE;1LONG VERTICAL LINE OVERLAY",
   "20d3;0COMBINING SHORT VERTICAL LINE OVERLAY;1ANTICLOCKWISE ARROW ABOVE",
   "20d5;0COMBINING CLOCKWISE ARROW ABOVE;1LEFT ARROW ABOVE;1RIGHT ARROW ABOVE;1RING OVERLAY",
   "20d9;0COMBINING CLOCKWISE RING OVERLAY;1ANTICLOCKWISE RING OVERLAY;1THREE DOTS ABOVE",
   "20dc;0COMBINING FOUR DOTS ABOVE;1ENCLOSING CIRCLE;2SQUARE;2DIAMOND;2CIRCLE BACKSLASH",
   "20e1;0COMBINING LEFT RIGHT ARROW ABOVE;1ENCLOSING SCREEN;2KEYCAP;2UPWARD POINTING TRIANGLE",
   "20e5;0COMBINING REVERSE SOLIDUS OVERLAY;1DOUBLE VERTICAL STROKE OVERLAY;1ANNUITY SYMBOL",
   "20e8;0COMBINING TRIPLE UNDERDOT;1WIDE BRIDGE ABOVE;1LEFTWARDS ARROW OVERLAY",
   "20eb;0COMBINING LONG DOUBLE SOLIDUS OVERLAY;1RIGHTWARDS HARPOON WITH BARB DOWNWARDS",
   "20ed;0COMBINING LEFTWARDS HARPOON WITH BARB DOWNWARDS;1LEFT ARROW BELOW;1RIGHT ARROW BELOW",
   "20f0;0COMBINING ASTERISK ABOVE",
   "2100;0ACCOUNT OF;0ADDRESSED TO THE SUBJECT;0DOUBLE-STRUCK CAPITAL C;0DEGREE CELSIUS",
   "2104;0CENTRE LINE SYMBOL;0CARE OF;0CADA UNA;0EULER CONSTANT;0SCRUPLE;0DEGREE FAHRENHEIT",
   "210a;0SCRIPT SMALL G;1CAPITAL H;0BLACK-LETTER CAPITAL H;0DOUBLE-STRUCK CAPITAL H",
   "210e;0PLANCK CONSTANT;2OVER TWO PI;0SCRIPT CAPITAL I;0BLACK-LETTER CAPITAL I",
   "2112;0SCRIPT CAPITAL L;1SMALL L;0L B BAR SYMBOL;0DOUBLE-STRUCK CAPITAL N;0NUMERO SIGN",
   "2117;0SOUND RECORDING COPYRIGHT;0SCRIPT CAPITAL P;0DOUBLE-STRUCK CAPITAL P;2Q",
   "211b;0SCRIPT CAPITAL R;0BLACK-LETTER CAPITAL R;0DOUBLE-STRUCK CAPITAL R;0PRESCRIPTION TAKE",
   "211f;0RESPONSE;0SERVICE MARK;0TELEPHONE SIGN;0TRADE MARK SIGN;0VERSICLE",
   "2124;0DOUBLE-STRUCK CAPITAL Z;0OUNCE SIGN;0OHM SIGN;0INVERTED OHM SIGN",
   "2128;0BLACK-LETTER CAPITAL Z;0TURNED GREEK SMALL LETTER IOTA;0KELVIN SIGN;0ANGSTROM SIGN",
   "212c;0SCRIPT CAPITAL B;0BLACK-LETTER CAPITAL C;0ESTIMATED SYMBOL;0SCRIPT SMALL E;1CAPITAL E",
   "2131;0SCRIPT CAPITAL F;0TURNED CAPITAL F;0SCRIPT CAPITAL M;1SMALL O;0ALEF SYMBOL;0BET SYMBOL",
   "2137;0GIMEL SYMBOL;0DALET SYMBOL;0INFORMATION SOURCE;0ROTATED CAPITAL Q;0FACSIMILE SIGN",
   "213c;0DOUBLE-STRUCK SMALL PI;2GAMMA;1CAPITAL GAMMA;2PI;1N-ARY SUMMATION",
   "2141;0TURNED SANS-SERIF CAPITAL G;3L;0REVERSED SANS-SERIF CAPITAL L",
   "2144;0TURNED SANS-SERIF CAPITAL Y;0DOUBLE-STRUCK ITALIC CAPITAL D;2SMALL D;3E;3I;3J",
   "214a;0PROPERTY LINE;0TURNED AMPERSAND;0PER SIGN;0AKTIESELSKAB;0TURNED SMALL F",
   "214f;0SYMBOL FOR SAMARITAN SOURCE;0VULGAR FRACTION ONE SEVENTH;3NINTH;3TENTH;3THIRD",
   "2154;0VULGAR FRACTION TWO THIRDS;2ONE FIFTH;2TWO FIFTHS;2THREE FIFTHS;2FOUR FIFTHS",
   "2159;0VULGAR FRACTION ONE SIXTH;2FIVE SIXTHS;2ONE EIGHTH;2THREE EIGHTHS;2FIVE EIGHTHS",
   "215e;0VULGAR FRACTION SEVEN EIGHTHS;0FRACTION NUMERATOR ONE;0ROMAN NUMERAL ONE;2TWO;2THREE",
   "2163;0ROMAN NUMERAL FOUR;2FIVE;2SIX;2SEVEN;2EIGHT;2NINE;2TEN;2ELEVEN;2TWELVE;2FIFTY",
   "216d;0ROMAN NUMERAL ONE HUNDRED;2FIVE HUNDRED;2ONE THOUSAND;0SMALL ROMAN NUMERAL ONE;3TWO",
   "2172;0SMALL ROMAN NUMERAL THREE;3FOUR;3FIVE;3SIX;3SEVEN;3EIGHT;3NINE;3TEN;3ELEVEN;3TWELVE",
   "217c;0SMALL ROMAN NUMERAL FIFTY;3ONE HUNDRED;3FIVE HUNDRED;3ONE THOUSAND",
   "2180;0ROMAN NUMERAL ONE THOUSAND C D;2FIVE THOUSAND;2TEN THOUSAND;2REVERSED ONE HUNDRED",
   "2184;0LATIN SMALL LETTER REVERSED C;0ROMAN NUMERAL SIX LATE FORM;2FIFTY EARLY FORM;3THOUSAND",
   "2188;0ROMAN NUMERAL ONE HUNDRED THOUSAND;0VULGAR FRACTION ZERO THIRDS;0TURNED DIGIT TWO",
   "218b;0TURNED DIGIT THREE",
   "2190;0LEFTWARDS ARROW;0UPWARDS ARROW;0RIGHTWARDS ARROW;0DOWNWARDS ARROW;0LEFT RIGHT ARROW",
   "2195;0UP DOWN ARROW;0NORTH WEST ARROW;1EAST ARROW;0SOUTH EAST ARROW;1WEST ARROW",
   "219a;0LEFTWARDS ARROW WITH STROKE;0RIGHTWARDS ARROW WITH STROKE;0LEFTWARDS WAVE ARROW",
   "219d;0RIGHTWARDS WAVE ARROW;0LEFTWARDS TWO HEADED ARROW;0UPWARDS TWO HEADED ARROW",
   "21a0;0RIGHTWARDS TWO HEADED ARROW;0DOWNWARDS TWO HEADED ARROW;0LEFTWARDS ARROW WITH TAIL",
   "21a3;0RIGHTWARDS ARROW WITH TAIL;0LEFTWARDS ARROW FROM BAR;0UPWARDS ARROW FROM BAR",
   "21a6;0RIGHTWARDS ARROW FROM BAR;0DOWNWARDS ARROW FROM BAR;0UP DOWN ARROW WITH BASE",
   "21a9;0LEFTWARDS ARROW WITH HOOK;0RIGHTWARDS ARROW WITH HOOK;0LEFTWARDS ARROW WITH LOOP",
   "21ac;0RIGHTWARDS ARROW WITH LOOP;0LEFT RIGHT WAVE ARROW;2ARROW WITH STROKE",
   "21af;0DOWNWARDS ZIGZAG ARROW;0UPWARDS ARROW WITH TIP LEFTWARDS;4RIGHTWARDS",
   "21b2;0DOWNWARDS ARROW WITH TIP LEFTWARDS;4RIGHTWARDS;0RIGHTWARDS ARROW WITH CORNER DOWNWARDS",
   "21b5;0DOWNWARDS ARROW WITH CORNER LEFTWARDS;0ANTICLOCKWISE TOP SEMICIRCLE ARROW",
   "21b7;0CLOCKWISE TOP SEMICIRCLE ARROW;0NORTH WEST ARROW TO LONG BAR",
   "21b9;0LEFTWARDS ARROW TO BAR OVER RIGHTWARDS ARROW TO BAR;0ANTICLOCKWISE OPEN CIRCLE ARROW",
   "21bb;0CLOCKWISE OPEN CIRCLE ARROW;0LEFTWARDS HARPOON WITH BARB UPWARDS;4DOWNWARDS",
   "21be;0UPWARDS HARPOON WITH BARB RIGHTWARDS;4LEFTWARDS;0RIGHTWARDS HARPOON WITH BARB UPWARDS",
   "21c1;0RIGHTWARDS HARPOON WITH BARB DOWNWARDS;0DOWNWARDS HARPOON WITH BARB RIGHTWARDS",
   "21c3;0DOWNWARDS HARPOON WITH BARB LEFTWARDS;0RIGHTWARDS ARROW OVER LEFTWARDS ARROW",
   "21c5;0UPWARDS ARROW LEFTWARDS OF DOWNWARDS ARROW;0LEFTWARDS ARROW OVER RIGHTWARDS ARROW",
   "21c7;0LEFTWARDS PAIRED ARROWS;0UPWARDS PAIRED ARROWS;0RIGHTWARDS PAIRED ARROWS",
   "21ca;0DOWNWARDS PAIRED ARROWS;0LEFTWARDS HARPOON OVER RIGHTWARDS HARPOON",
   "21cc;0RIGHTWARDS HARPOON OVER LEFTWARDS HARPOON;0LEFTWARDS DOUBLE ARROW WITH STROKE",
   "21ce;0LEFT RIGHT DOUBLE ARROW WITH STROKE;0RIGHTWARDS DOUBLE ARROW WITH STROKE",
   "21d0;0LEFTWARDS DOUBLE ARROW;0UPWARDS DOUBLE ARROW;0RIGHTWARDS DOUBLE ARROW",
   "21d3;0DOWNWARDS DOUBLE ARROW;0LEFT RIGHT DOUBLE ARROW;0UP DOWN DOUBLE ARROW",
   "21d6;0NORTH WEST DOUBLE ARROW;1EAST DOUBLE ARROW;0SOUTH EAST DOUBLE ARROW;1WEST DOUBLE ARROW",
   "21da;0LEFTWARDS TRIPLE ARROW;0RIGHTWARDS TRIPLE ARROW;0LEFTWARDS SQUIGGLE ARROW",
   "21dd;0RIGHTWARDS SQUIGGLE ARROW;0UPWARDS ARROW WITH DOUBLE STROKE",
   "21df;0DOWNWARDS ARROW WITH DOUBLE STROKE;0LEFTWARDS DASHED ARROW;0UPWARDS DASHED ARROW",
   "21e2;0RIGHTWARDS DASHED ARROW;0DOWNWARDS DASHED ARROW;0LEFTWARDS ARROW TO BAR",
   "21e5;0RIGHTWARDS ARROW TO BAR;0LEFTWARDS WHITE ARROW;0UPWARDS WHITE ARROW",
   "21e8;0RIGHTWARDS WHITE ARROW;0DOWNWARDS WHITE ARROW;0UPWARDS WHITE ARROW FROM BAR",
   "21eb;0UPWARDS WHITE ARROW ON PEDESTAL;5WITH HORIZONTAL BAR;6VERTICAL BAR;2DOUBLE ARROW",
   "21ef;0UPWARDS WHITE DOUBLE ARROW ON PEDESTAL;0RIGHTWARDS WHITE ARROW FROM WALL",
   "21f1;0NORTH WEST ARROW TO CORNER;0SOUTH EAST ARROW TO CORNER;0UP DOWN WHITE ARROW",
   "21f4;0RIGHT ARROW WITH SMALL CIRCLE;0DOWNWARDS ARROW LEFTWARDS OF UPWARDS ARROW",
   "21f6;0THREE RIGHTWARDS ARROWS;0LEFTWARDS ARROW WITH VERTICAL STROKE",
   "21f8;0RIGHTWARDS ARROW WITH VERTICAL STROKE;0LEFT RIGHT ARROW WITH VERTICAL STROKE",
   "21fa;0LEFTWARDS ARROW WITH DOUBLE VERTICAL STROKE",
   "21fb;0RIGHTWARDS ARROW WITH DOUBLE VERTICAL STROKE",
   "21fc;0LEFT RIGHT ARROW WITH DOUBLE VERTICAL STROKE;0LEFTWARDS OPEN-HEADED ARROW",
   "21fe;0RIGHTWARDS OPEN-HEADED ARROW;0LEFT RIGHT OPEN-HEADED ARROW;0FOR ALL;0COMPLEMENT",
   "2202;0PARTIAL DIFFERENTIAL;0THERE EXISTS;1DOES NOT EXIST;0EMPTY SET;0INCREMENT;0NABLA",
   "2208;0ELEMENT OF;0NOT AN ELEMENT OF;0SMALL ELEMENT OF;0CONTAINS AS MEMBER",
   "220c;0DOES NOT CONTAIN AS MEMBER;0SMALL CONTAINS AS MEMBER;0END OF PROOF;0N-ARY PRODUCT",
   "2210;0N-ARY COPRODUCT;1SUMMATION;0MINUS SIGN;0MINUS-OR-PLUS SIGN;0DOT PLUS;0DIVISION SLASH",
   "2216;0SET MINUS;0ASTERISK OPERATOR;0RING OPERATOR;0BULLET OPERATOR;0SQUARE ROOT;0CUBE ROOT",
   "221c;0FOURTH ROOT;0PROPORTIONAL TO;0INFINITY;0RIGHT ANGLE;0ANGLE;0MEASURED ANGLE",
   "2222;0SPHERICAL ANGLE;0DIVIDES;0DOES NOT DIVIDE;0PARALLEL TO;0NOT PARALLEL TO;0LOGICAL AND",
   "2228;0LOGICAL OR;0INTERSECTION;0UNION;0INTEGRAL;0DOUBLE INTEGRAL;0TRIPLE INTEGRAL",
   "222e;0CONTOUR INTEGRAL;0SURFACE INTEGRAL;0VOLUME INTEGRAL;0CLOCKWISE INTEGRAL",
   "2232;0CLOCKWISE CONTOUR INTEGRAL;0ANTICLOCKWISE CONTOUR INTEGRAL;0THEREFORE;0BECAUSE;0RATIO",
   "2237;0PROPORTION;0DOT MINUS;0EXCESS;0GEOMETRIC PROPORTION;0HOMOTHETIC;0TILDE OPERATOR",
   "223d;0REVERSED TILDE;0INVERTED LAZY S;0SINE WAVE;0WREATH PRODUCT;0NOT TILDE;0MINUS TILDE",
   "2243;0ASYMPTOTICALLY EQUAL TO;0NOT ASYMPTOTICALLY EQUAL TO;0APPROXIMATELY EQUAL TO",
   "2246;0APPROXIMATELY BUT NOT ACTUALLY EQUAL TO;0NEITHER APPROXIMATELY NOR ACTUALLY EQUAL TO",
   "2248;0ALMOST EQUAL TO;0NOT ALMOST EQUAL TO;0ALMOST EQUAL OR EQUAL TO;0TRIPLE TILDE",
   "224c;0ALL EQUAL TO;0EQUIVALENT TO;0GEOMETRICALLY EQUIVALENT TO;0DIFFERENCE BETWEEN",
   "2250;0APPROACHES THE LIMIT;0GEOMETRICALLY EQUAL TO;0APPROXIMATELY EQUAL TO OR THE IMAGE OF",
   "2253;0IMAGE OF OR APPROXIMATELY EQUAL TO;0COLON EQUALS;0EQUALS COLON;0RING IN EQUAL TO",
   "2257;0RING EQUAL TO;0CORRESPONDS TO;0ESTIMATES;0EQUIANGULAR TO;0STAR EQUALS;0DELTA EQUAL TO",
   "225d;0EQUAL TO BY DEFINITION;0MEASURED BY;0QUESTIONED EQUAL TO;0NOT EQUAL TO;0IDENTICAL TO",
   "2262;0NOT IDENTICAL TO;0STRICTLY EQUIVALENT TO;0LESS-THAN OR EQUAL TO",
   "2265;0GREATER-THAN OR EQUAL TO;0LESS-THAN OVER EQUAL TO;0GREATER-THAN OVER EQUAL TO",
   "2268;0LESS-THAN BUT NOT EQUAL TO;0GREATER-THAN BUT NOT EQUAL TO;0MUCH LESS-THAN",
   "226b;0MUCH GREATER-THAN;0BETWEEN;0NOT EQUIVALENT TO;1LESS-THAN;1GREATER-THAN",
   "2270;0NEITHER LESS-THAN NOR EQUAL TO;1GREATER-THAN NOR EQUAL TO;0LESS-THAN OR EQUIVALENT TO",
   "2273;0GREATER-THAN OR EQUIVALENT TO;0NEITHER LESS-THAN NOR EQUIVALENT TO",
   "2275;0NEITHER GREATER-THAN NOR EQUIVALENT TO;0LESS-THAN OR GREATER-THAN",
   "2277;0GREATER-THAN OR LESS-THAN;0NEITHER LESS-THAN NOR GREATER-THAN",
   "2279;0NEITHER GREATER-THAN NOR LESS-THAN;0PRECEDES;0SUCCEEDS;0PRECEDES OR EQUAL TO",
   "227d;0SUCCEEDS OR EQUAL TO;0PRECEDES OR EQUIVALENT TO;0SUCCEEDS OR EQUIVALENT TO",
   "2280;0DOES NOT PRECEDE;2SUCCEED;0SUBSET OF;0SUPERSET OF;0NOT A SUBSET OF;2SUPERSET OF",
   "2286;0SUBSET OF OR EQUAL TO;0SUPERSET OF OR EQUAL TO;0NEITHER A SUBSET OF NOR EQUAL TO",
   "2289;0NEITHER A SUPERSET OF NOR EQUAL TO;0SUBSET OF WITH NOT EQUAL TO",
   "228b;0SUPERSET OF WITH NOT EQUAL TO;0MULTISET;1MULTIPLICATION;1UNION;0SQUARE IMAGE OF",
   "2290;0SQUARE ORIGINAL OF;1IMAGE OF OR EQUAL TO;1ORIGINAL OF OR EQUAL TO;1CAP;1CUP",
   "2295;0CIRCLED PLUS;1MINUS;1TIMES;1DIVISION SLASH;1DOT OPERATOR;1RING OPERATOR",
   "229b;0CIRCLED ASTERISK OPERATOR;1EQUALS;1DASH;0SQUARED PLUS;1MINUS;1TIMES;1DOT OPERATOR",
   "22a2;0RIGHT TACK;0LEFT TACK;0DOWN TACK;0UP TACK;0ASSERTION;0MODELS;0TRUE;0FORCES",
   "22aa;0TRIPLE VERTICAL BAR RIGHT TURNSTILE;0DOUBLE VERTICAL BAR DOUBLE RIGHT TURNSTILE",
   "22ac;0DOES NOT PROVE;0NOT TRUE;0DOES NOT FORCE",
   "22af;0NEGATED DOUBLE VERTICAL BAR DOUBLE RIGHT TURNSTILE;0PRECEDES UNDER RELATION",
   "22b1;0SUCCEEDS UNDER RELATION;0NORMAL SUBGROUP OF;0CONTAINS AS NORMAL SUBGROUP",
   "22b4;0NORMAL SUBGROUP OF OR EQUAL TO;0CONTAINS AS NORMAL SUBGROUP OR EQUAL TO;0ORIGINAL OF",
   "22b7;0IMAGE OF;0MULTIMAP;0HERMITIAN CONJUGATE MATRIX;0INTERCALATE;0XOR;0NAND;0NOR",
   "22be;0RIGHT ANGLE WITH ARC;1TRIANGLE;0N-ARY LOGICAL AND;2OR;1INTERSECTION;1UNION",
   "22c4;0DIAMOND OPERATOR;0DOT OPERATOR;0STAR OPERATOR;0DIVISION TIMES;0BOWTIE",
   "22c9;0LEFT NORMAL FACTOR SEMIDIRECT PRODUCT;0RIGHT NORMAL FACTOR SEMIDIRECT PRODUCT",
   "22cb;0LEFT SEMIDIRECT PRODUCT;0RIGHT SEMIDIRECT PRODUCT;0REVERSED TILDE EQUALS",
   "22ce;0CURLY LOGICAL OR;2AND;0DOUBLE SUBSET;1SUPERSET;1INTERSECTION;1UNION;0PITCHFORK",
   "22d5;0EQUAL AND PARALLEL TO;0LESS-THAN WITH DOT;0GREATER-THAN WITH DOT;0VERY MUCH LESS-THAN",
   "22d9;0VERY MUCH GREATER-THAN;0LESS-THAN EQUAL TO OR GREATER-THAN",
   "22db;0GREATER-THAN EQUAL TO OR LESS-THAN;0EQUAL TO OR LESS-THAN;3GREATER-THAN;3PRECEDES",
   "22df;0EQUAL TO OR SUCCEEDS;0DOES NOT PRECEDE OR EQUAL;2SUCCEED OR EQUAL",
   "22e2;0NOT SQUARE IMAGE OF OR EQUAL TO;2ORIGINAL OF OR EQUAL TO",
   "22e4;0SQUARE IMAGE OF OR NOT EQUAL TO;1ORIGINAL OF OR NOT EQUAL TO",
   "22e6;0LESS-THAN BUT NOT EQUIVALENT TO;0GREATER-THAN BUT NOT EQUIVALENT TO",
   "22e8;0PRECEDES BUT NOT EQUIVALENT TO;0SUCCEEDS BUT NOT EQUIVALENT TO;0NOT NORMAL SUBGROUP OF",
   "22eb;0DOES NOT CONTAIN AS NORMAL SUBGROUP;0NOT NORMAL SUBGROUP OF OR EQUAL TO",
   "22ed;0DOES NOT CONTAIN AS NORMAL SUBGROUP OR EQUAL;0VERTICAL ELLIPSIS",
   "22ef;0MIDLINE HORIZONTAL ELLIPSIS;0UP RIGHT DIAGONAL ELLIPSIS;0DOWN RIGHT DIAGONAL ELLIPSIS",
   "22f2;0ELEMENT OF WITH LONG HORIZONTAL STROKE;3VERTICAL BAR AT END OF HORIZONTAL STROKE",
   "22f4;0SMALL ELEMENT OF WITH VERTICAL BAR AT END OF HORIZONTAL STROKE",
   "22f5;0ELEMENT OF WITH DOT ABOVE;3OVERBAR;0SMALL ELEMENT OF WITH OVERBAR",
   "22f8;0ELEMENT OF WITH UNDERBAR;3TWO HORIZONTAL STROKES;0CONTAINS WITH LONG HORIZONTAL STROKE",
   "22fb;0CONTAINS WITH VERTICAL BAR AT END OF HORIZONTAL STROKE",
   "22fc;0SMALL CONTAINS WITH VERTICAL BAR AT END OF HORIZONTAL STROKE;0CONTAINS WITH OVERBAR",
   "22fe;0SMALL CONTAINS WITH OVERBAR;0Z NOTATION BAG MEMBERSHIP;0DIAMETER SIGN;0ELECTRIC ARROW",
   "2302;0HOUSE;0UP ARROWHEAD;0DOWN ARROWHEAD;0PROJECTIVE;0PERSPECTIVE;0WAVY LINE;0LEFT CEILING",
   "2309;0RIGHT CEILING;0LEFT FLOOR;0RIGHT FLOOR;0BOTTOM RIGHT CROP;1LEFT CROP;0TOP RIGHT CROP",
   "230f;0TOP LEFT CROP;0REVERSED NOT SIGN;0SQUARE LOZENGE;0ARC;0SEGMENT;0SECTOR",
   "2315;0TELEPHONE RECORDER;0POSITION INDICATOR;0VIEWDATA SQUARE;0PLACE OF INTEREST SIGN",
   "2319;0TURNED NOT SIGN;0WATCH;0HOURGLASS;0TOP LEFT CORNER;1RIGHT CORNER;0BOTTOM LEFT CORNER",
   "231f;0BOTTOM RIGHT CORNER;0TOP HALF INTEGRAL;0BOTTOM HALF INTEGRAL;0FROWN;0SMILE",
   "2324;0UP ARROWHEAD BETWEEN TWO HORIZONTAL BARS;0OPTION KEY;0ERASE TO THE RIGHT",
   "2327;0X IN A RECTANGLE BOX;0KEYBOARD;0LEFT-POINTING ANGLE BRACKET",
   "232a;0RIGHT-POINTING ANGLE BRACKET;0ERASE TO THE LEFT;0BENZENE RING;0CYLINDRICITY",
   "232e;0ALL AROUND-PROFILE;0SYMMETRY;0TOTAL RUNOUT;0DIMENSION ORIGIN;0CONICAL TAPER;0SLOPE",
   "2334;0COUNTERBORE;0COUNTERSINK;0APL FUNCTIONAL SYMBOL I-BEAM;3SQUISH QUAD;3QUAD EQUAL",
   "2339;0APL FUNCTIONAL SYMBOL QUAD DIVIDE;4DIAMOND;4JOT;4CIRCLE;3CIRCLE STILE;4JOT;3SLASH BAR",
   "2340;0APL FUNCTIONAL SYMBOL BACKSLASH BAR;3QUAD SLASH;4BACKSLASH;4LESS-THAN;4GREATER-THAN",
   "2345;0APL FUNCTIONAL SYMBOL LEFTWARDS VANE;3RIGHTWARDS VANE;3QUAD LEFTWARDS ARROW",
   "2348;0APL FUNCTIONAL SYMBOL QUAD RIGHTWARDS ARROW;3CIRCLE BACKSLASH;3DOWN TACK UNDERBAR",
   "234b;0APL FUNCTIONAL SYMBOL DELTA STILE;3QUAD DOWN CARET;4DELTA;3DOWN TACK JOT;3UPWARDS VANE",
   "2350;0APL FUNCTIONAL SYMBOL QUAD UPWARDS ARROW;3UP TACK OVERBAR;3DEL STILE;3QUAD UP CARET",
   "2354;0APL FUNCTIONAL SYMBOL QUAD DEL;3UP TACK JOT;3DOWNWARDS VANE;3QUAD DOWNWARDS ARROW",
   "2358;0APL FUNCTIONAL SYMBOL QUOTE UNDERBAR;3DELTA UNDERBAR;3DIAMOND UNDERBAR;3JOT UNDERBAR",
   "235c;0APL FUNCTIONAL SYMBOL CIRCLE UNDERBAR;3UP SHOE JOT;3QUOTE QUAD;3CIRCLE STAR",
   "2360;0APL FUNCTIONAL SYMBOL QUAD COLON;3UP TACK DIAERESIS;3DEL DIAERESIS;3STAR DIAERESIS",
   "2364;0APL FUNCTIONAL SYMBOL JOT DIAERESIS;3CIRCLE DIAERESIS;3DOWN SHOE STILE",
   "2367;0APL FUNCTIONAL SYMBOL LEFT SHOE STILE;3TILDE DIAERESIS;3GREATER-THAN DIAERESIS",
   "236a;0APL FUNCTIONAL SYMBOL COMMA BAR;3DEL TILDE;3ZILDE;3STILE TILDE;3SEMICOLON UNDERBAR",
   "236f;0APL FUNCTIONAL SYMBOL QUAD NOT EQUAL;4QUESTION;3DOWN CARET TILDE;3UP CARET TILDE;3IOTA",
   "2374;0APL FUNCTIONAL SYMBOL RHO;3OMEGA;3ALPHA UNDERBAR;3EPSILON UNDERBAR;3IOTA UNDERBAR",
   "2379;0APL FUNCTIONAL SYMBOL OMEGA UNDERBAR;3ALPHA;0NOT CHECK MARK",
   "237c;0RIGHT ANGLE WITH DOWNWARDS ZIGZAG ARROW;0SHOULDERED OPEN BOX;0BELL SYMBOL",
   "237f;0VERTICAL LINE WITH MIDDLE DOT;0INSERTION SYMBOL;0CONTINUOUS UNDERLINE SYMBOL",
   "2382;0DISCONTINUOUS UNDERLINE SYMBOL;0EMPHASIS SYMBOL;0COMPOSITION SYMBOL",
   "2385;0WHITE SQUARE WITH CENTRE VERTICAL LINE;0ENTER SYMBOL;0ALTERNATIVE KEY SYMBOL",
   "2388;0HELM SYMBOL;0CIRCLED HORIZONTAL BAR WITH NOTCH;1TRIANGLE DOWN",
   "238b;0BROKEN CIRCLE WITH NORTHWEST ARROW;0UNDO SYMBOL;0MONOSTABLE SYMBOL;0HYSTERESIS SYMBOL",
   "238f;0OPEN-CIRCUIT-OUTPUT H-TYPE SYMBOL;1L-TYPE SYMBOL;0PASSIVE-PULL-DOWN-OUTPUT SYMBOL",
   "2392;0PASSIVE-PULL-UP-OUTPUT SYMBOL;0DIRECT CURRENT SYMBOL FORM TWO",
   "2394;0SOFTWARE-FUNCTION SYMBOL;0APL FUNCTIONAL SYMBOL QUAD;0DECIMAL SEPARATOR KEY SYMBOL",
   "2397;0PREVIOUS PAGE;0NEXT PAGE;0PRINT SCREEN SYMBOL;0CLEAR SCREEN SYMBOL",
   "239b;0LEFT PARENTHESIS UPPER HOOK;2EXTENSION;2LOWER HOOK;0RIGHT PARENTHESIS UPPER HOOK",
   "239f;0RIGHT PARENTHESIS EXTENSION;2LOWER HOOK;0LEFT SQUARE BRACKET UPPER CORNER;3EXTENSION",
   "23a3;0LEFT SQUARE BRACKET LOWER CORNER;0RIGHT SQUARE BRACKET UPPER CORNER;3EXTENSION",
   "23a6;0RIGHT SQUARE BRACKET LOWER CORNER;0LEFT CURLY BRACKET UPPER HOOK;3MIDDLE PIECE",
   "23a9;0LEFT CURLY BRACKET LOWER HOOK;0CURLY BRACKET EXTENSION;0RIGHT CURLY BRACKET UPPER HOOK",
   "23ac;0RIGHT CURLY BRACKET MIDDLE PIECE;3LOWER HOOK;0INTEGRAL EXTENSION",
   "23af;0HORIZONTAL LINE EXTENSION;0UPPER LEFT OR LOWER RIGHT CURLY BRACKET SECTION",
   "23b1;0UPPER RIGHT OR LOWER LEFT CURLY BRACKET SECTION;0SUMMATION TOP;1BOTTOM",
   "23b4;0TOP SQUARE BRACKET;0BOTTOM SQUARE BRACKET;3OVER TOP SQUARE BRACKET",
   "23b7;0RADICAL SYMBOL BOTTOM;0LEFT VERTICAL BOX LINE;0RIGHT VERTICAL BOX LINE",
   "23ba;0HORIZONTAL SCAN LINE-1;2LINE-3;2LINE-7;2LINE-9",
   "23be;0DENTISTRY SYMBOL LIGHT VERTICAL AND TOP RIGHT;5BOTTOM RIGHT;4WITH CIRCLE",
   "23c1;0DENTISTRY SYMBOL LIGHT DOWN AND HORIZONTAL WITH CIRCLE;3UP AND HORIZONTAL WITH CIRCLE",
   "23c3;0DENTISTRY SYMBOL LIGHT VERTICAL WITH TRIANGLE;3DOWN AND HORIZONTAL WITH TRIANGLE",
   "23c5;0DENTISTRY SYMBOL LIGHT UP AND HORIZONTAL WITH TRIANGLE;3VERTICAL AND WAVE",
   "23c7;0DENTISTRY SYMBOL LIGHT DOWN AND HORIZONTAL WITH WAVE;3UP AND HORIZONTAL WITH WAVE",
   "23c9;0DENTISTRY SYMBOL LIGHT DOWN AND HORIZONTAL;3UP AND HORIZONTAL;3VERTICAL AND TOP LEFT",
   "23cc;0DENTISTRY SYMBOL LIGHT VERTICAL AND BOTTOM LEFT;0SQUARE FOOT;0RETURN SYMBOL",
   "23cf;0EJECT SYMBOL;0VERTICAL LINE EXTENSION;0METRICAL BREVE;1LONG OVER SHORT",
   "23d3;0METRICAL SHORT OVER LONG;1LONG OVER TWO SHORTS;1TWO SHORTS OVER LONG;3JOINED;1TRISEME",
   "23d8;0METRICAL TETRASEME;1PENTASEME;0EARTH GROUND;0FUSE;0TOP PARENTHESIS;0BOTTOM PARENTHESIS",
   "23de;0TOP CURLY BRACKET;0BOTTOM CURLY BRACKET;0TOP TORTOISE SHELL BRACKET",
   "23e1;0BOTTOM TORTOISE SHELL BRACKET;0WHITE TRAPEZIUM;0BENZENE RING WITH CIRCLE;0STRAIGHTNESS",
   "23e5;0FLATNESS;0AC CURRENT;0ELECTRICAL INTERSECTION;0DECIMAL EXPONENT SYMBOL",
   "23e9;0BLACK RIGHT-POINTING DOUBLE TRIANGLE;1LEFT-POINTING DOUBLE TRIANGLE",
   "23eb;0BLACK UP-POINTING DOUBLE TRIANGLE;1DOWN-POINTING DOUBLE TRIANGLE",
   "23ed;0BLACK RIGHT-POINTING DOUBLE TRIANGLE WITH VERTICAL BAR",
   "23ee;0BLACK LEFT-POINTING DOUBLE TRIANGLE WITH VERTICAL BAR",
   "23ef;0BLACK RIGHT-POINTING TRIANGLE WITH DOUBLE VERTICAL BAR;0ALARM CLOCK;0STOPWATCH",
   "23f2;0TIMER CLOCK;0HOURGLASS WITH FLOWING SAND;0BLACK MEDIUM LEFT-POINTING TRIANGLE",
   "23f5;0BLACK MEDIUM RIGHT-POINTING TRIANGLE;2UP-POINTING TRIANGLE;2DOWN-POINTING TRIANGLE",
   "23f8;0DOUBLE VERTICAL BAR;0BLACK SQUARE FOR STOP;1CIRCLE FOR RECORD;0POWER SYMBOL",
   "23fc;0POWER ON-OFF SYMBOL;1ON SYMBOL;1SLEEP SYMBOL;0OBSERVER EYE SYMBOL;0SYMBOL FOR NULL",
   "2401;0SYMBOL FOR START OF HEADING;4TEXT;2END OF TEXT;4TRANSMISSION;2ENQUIRY;2ACKNOWLEDGE",
   "2407;0SYMBOL FOR BELL;2BACKSPACE;2HORIZONTAL TABULATION;2LINE FEED;2VERTICAL TABULATION",
   "240c;0SYMBOL FOR FORM FEED;2CARRIAGE RETURN;2SHIFT OUT;3IN;2DATA LINK ESCAPE",
   "2411;0SYMBOL FOR DEVICE CONTROL ONE;4TWO;4THREE;4FOUR;2NEGATIVE ACKNOWLEDGE",
   "2416;0SYMBOL FOR SYNCHRONOUS IDLE;2END OF TRANSMISSION BLOCK;2CANCEL;2END OF MEDIUM",
   "241a;0SYMBOL FOR SUBSTITUTE;2ESCAPE;2FILE SEPARATOR;2GROUP SEPARATOR;2RECORD SEPARATOR",
   "241f;0SYMBOL FOR UNIT SEPARATOR;2SPACE;2DELETE;0BLANK SYMBOL;0OPEN BOX;0SYMBOL FOR NEWLINE",
   "2425;0SYMBOL FOR DELETE FORM TWO;2SUBSTITUTE FORM TWO",
   "2440;0OCR HOOK;1CHAIR;1FORK;1INVERTED FORK;1BELT BUCKLE;1BOW TIE;1BRANCH BANK IDENTIFICATION",
   "2447;0OCR AMOUNT OF CHECK;1DASH;1CUSTOMER ACCOUNT NUMBER;1DOUBLE BACKSLASH",
   "2460;0CIRCLED DIGIT ONE;2TWO;2THREE;2FOUR;2FIVE;2SIX;2SEVEN;2EIGHT;2NINE;1NUMBER TEN;2ELEVEN",
   "246b;0CIRCLED NUMBER TWELVE;2THIRTEEN;2FOURTEEN;2FIFTEEN;2SIXTEEN;2SEVENTEEN;2EIGHTEEN",
   "2472;0CIRCLED NUMBER NINETEEN;2TWENTY;0PARENTHESIZED DIGIT ONE;2TWO;2THREE;2FOUR;2FIVE;2SIX",
   "247a;0PARENTHESIZED DIGIT SEVEN;2EIGHT;2NINE;1NUMBER TEN;2ELEVEN;2TWELVE;2THIRTEEN;2FOURTEEN",
   "2482;0PARENTHESIZED NUMBER FIFTEEN;2SIXTEEN;2SEVENTEEN;2EIGHTEEN;2NINETEEN;2TWENTY",
   "2488;0DIGIT ONE FULL STOP;1TWO FULL STOP;1THREE FULL STOP;1FOUR FULL STOP;1FIVE FULL STOP",
   "248d;0DIGIT SIX FULL STOP;1SEVEN FULL STOP;1EIGHT FULL STOP;1NINE FULL STOP",
   "2491;0NUMBER TEN FULL STOP;1ELEVEN FULL STOP;1TWELVE FULL STOP;1THIRTEEN FULL STOP",
   "2495;0NUMBER FOURTEEN FULL STOP;1FIFTEEN FULL STOP;1SIXTEEN FULL STOP;1SEVENTEEN FULL STOP",
   "2499;0NUMBER EIGHTEEN FULL STOP;1NINETEEN FULL STOP;1TWENTY FULL STOP",
   "249c;0PARENTHESIZED LATIN SMALL LETTER A;4B;4C;4D;4E;4F;4G;4H;4I;4J;4K;4L;4M;4N;4O;4P;4Q;4R",
   "24ae;0PARENTHESIZED LATIN SMALL LETTER S;4T;4U;4V;4W;4X;4Y;4Z",
   "24b6;0CIRCLED LATIN CAPITAL LETTER A;4B;4C;4D;4E;4F;4G;4H;4I;4J;4K;4L;4M;4N;4O;4P;4Q;4R;4S",
   "24c9;0CIRCLED LATIN CAPITAL LETTER T;4U;4V;4W;4X;4Y;4Z;2SMALL LETTER A;4B;4C;4D;4E;4F;4G;4H",
   "24d8;0CIRCLED LATIN SMALL LETTER I;4J;4K;4L;4M;4N;4O;4P;4Q;4R;4S;4T;4U;4V;4W;4X;4Y;4Z",
   "24ea;0CIRCLED DIGIT ZERO;0NEGATIVE CIRCLED NUMBER ELEVEN;3TWELVE;3THIRTEEN;3FOURTEEN",
   "24ef;0NEGATIVE CIRCLED NUMBER FIFTEEN;3SIXTEEN;3SEVENTEEN;3EIGHTEEN;3NINETEEN;3TWENTY",
   "24f5;0DOUBLE CIRCLED DIGIT ONE;3TWO;3THREE;3FOUR;3FIVE;3SIX;3SEVEN;3EIGHT;3NINE;2NUMBER TEN",
   "24ff;0NEGATIVE CIRCLED DIGIT ZERO;0BOX DRAWINGS LIGHT HORIZONTAL;2HEAVY HORIZONTAL",
   "2502;0BOX DRAWINGS LIGHT VERTICAL;2HEAVY VERTICAL;2LIGHT TRIPLE DASH HORIZONTAL",
   "2505;0BOX DRAWINGS HEAVY TRIPLE DASH HORIZONTAL;2LIGHT TRIPLE DASH VERTICAL",
   "2507;0BOX DRAWINGS HEAVY TRIPLE DASH VERTICAL;2LIGHT QUADRUPLE DASH HORIZONTAL",
   "2509;0BOX DRAWINGS HEAVY QUADRUPLE DASH HORIZONTAL;2LIGHT QUADRUPLE DASH VERTICAL",
   "250b;0BOX DRAWINGS HEAVY QUADRUPLE DASH VERTICAL;2LIGHT DOWN AND RIGHT",
   "250d;0BOX DRAWINGS DOWN LIGHT AND RIGHT HEAVY;3HEAVY AND RIGHT LIGHT;2HEAVY DOWN AND RIGHT",
   "2510;0BOX DRAWINGS LIGHT DOWN AND LEFT;2DOWN LIGHT AND LEFT HEAVY;3HEAVY AND LEFT LIGHT",
   "2513;0BOX DRAWINGS HEAVY DOWN AND LEFT;2LIGHT UP AND RIGHT;2UP LIGHT AND RIGHT HEAVY",
   "2516;0BOX DRAWINGS UP HEAVY AND RIGHT LIGHT;2HEAVY UP AND RIGHT;2LIGHT UP AND LEFT",
   "2519;0BOX DRAWINGS UP LIGHT AND LEFT HEAVY;3HEAVY AND LEFT LIGHT;2HEAVY UP AND LEFT",
   "251c;0BOX DRAWINGS LIGHT VERTICAL AND RIGHT;2VERTICAL LIGHT AND RIGHT HEAVY",
   "251e;0BOX DRAWINGS UP HEAVY AND RIGHT DOWN LIGHT;2DOWN HEAVY AND RIGHT UP LIGHT",
   "2520;0BOX DRAWINGS VERTICAL HEAVY AND RIGHT LIGHT;2DOWN LIGHT AND RIGHT UP HEAVY",
   "2522;0BOX DRAWINGS UP LIGHT AND RIGHT DOWN HEAVY;2HEAVY VERTICAL AND RIGHT",
   "2524;0BOX DRAWINGS LIGHT VERTICAL AND LEFT;2VERTICAL LIGHT AND LEFT HEAVY",
   "2526;0BOX DRAWINGS UP HEAVY AND LEFT DOWN LIGHT;2DOWN HEAVY AND LEFT UP LIGHT",
   "2528;0BOX DRAWINGS VERTICAL HEAVY AND LEFT LIGHT;2DOWN LIGHT AND LEFT UP HEAVY",
   "252a;0BOX DRAWINGS UP LIGHT AND LEFT DOWN HEAVY;2HEAVY VERTICAL AND LEFT",
   "252c;0BOX DRAWINGS LIGHT DOWN AND HORIZONTAL;2LEFT HEAVY AND RIGHT DOWN LIGHT",
   "252e;0BOX DRAWINGS RIGHT HEAVY AND LEFT DOWN LIGHT;2DOWN LIGHT AND HORIZONTAL HEAVY",
   "2530;0BOX DRAWINGS DOWN HEAVY AND HORIZONTAL LIGHT;2RIGHT LIGHT AND LEFT DOWN HEAVY",
   "2532;0BOX DRAWINGS LEFT LIGHT AND RIGHT DOWN HEAVY;2HEAVY DOWN AND HORIZONTAL",
   "2534;0BOX DRAWINGS LIGHT UP AND HORIZONTAL;2LEFT HEAVY AND RIGHT UP LIGHT",
   "2536;0BOX DRAWINGS RIGHT HEAVY AND LEFT UP LIGHT;2UP LIGHT AND HORIZONTAL HEAVY",
   "2538;0BOX DRAWINGS UP HEAVY AND HORIZONTAL LIGHT;2RIGHT LIGHT AND LEFT UP HEAVY",
   "253a;0BOX DRAWINGS LEFT LIGHT AND RIGHT UP HEAVY;2HEAVY UP AND HORIZONTAL",
   "253c;0BOX DRAWINGS LIGHT VERTICAL AND HORIZONTAL;2LEFT HEAVY AND RIGHT VERTICAL LIGHT",
   "253e;0BOX DRAWINGS RIGHT HEAVY AND LEFT VERTICAL LIGHT;2VERTICAL LIGHT AND HORIZONTAL HEAVY",
   "2540;0BOX DRAWINGS UP HEAVY AND DOWN HORIZONTAL LIGHT;2DOWN HEAVY AND UP HORIZONTAL LIGHT",
   "2542;0BOX DRAWINGS VERTICAL HEAVY AND HORIZONTAL LIGHT;2LEFT UP HEAVY AND RIGHT DOWN LIGHT",
   "2544;0BOX DRAWINGS RIGHT UP HEAVY AND LEFT DOWN LIGHT;2LEFT DOWN HEAVY AND RIGHT UP LIGHT",
   "2546;0BOX DRAWINGS RIGHT DOWN HEAVY AND LEFT UP LIGHT;2DOWN LIGHT AND UP HORIZONTAL HEAVY",
   "2548;0BOX DRAWINGS UP LIGHT AND DOWN HORIZONTAL HEAVY;2RIGHT LIGHT AND LEFT VERTICAL HEAVY",
   "254a;0BOX DRAWINGS LEFT LIGHT AND RIGHT VERTICAL HEAVY;2HEAVY VERTICAL AND HORIZONTAL",
   "254c;0BOX DRAWINGS LIGHT DOUBLE DASH HORIZONTAL;2HEAVY DOUBLE DASH HORIZONTAL",
   "254e;0BOX DRAWINGS LIGHT DOUBLE DASH VERTICAL;2HEAVY DOUBLE DASH VERTICAL;2DOUBLE HORIZONTAL",
   "2551;0BOX DRAWINGS DOUBLE VERTICAL;2DOWN SINGLE AND RIGHT DOUBLE;3DOUBLE AND RIGHT SINGLE",
   "2554;0BOX DRAWINGS DOUBLE DOWN AND RIGHT;2DOWN SINGLE AND LEFT DOUBLE",
   "2556;0BOX DRAWINGS DOWN DOUBLE AND LEFT SINGLE;2DOUBLE DOWN AND LEFT",
   "2558;0BOX DRAWINGS UP SINGLE AND RIGHT DOUBLE;3DOUBLE AND RIGHT SINGLE;2DOUBLE UP AND RIGHT",
   "255b;0BOX DRAWINGS UP SINGLE AND LEFT DOUBLE;3DOUBLE AND LEFT SINGLE;2DOUBLE UP AND LEFT",
   "255e;0BOX DRAWINGS VERTICAL SINGLE AND RIGHT DOUBLE;3DOUBLE AND RIGHT SINGLE",
   "2560;0BOX DRAWINGS DOUBLE VERTICAL AND RIGHT;2VERTICAL SINGLE AND LEFT DOUBLE",
   "2562;0BOX DRAWINGS VERTICAL DOUBLE AND LEFT SINGLE;2DOUBLE VERTICAL AND LEFT",
   "2564;0BOX DRAWINGS DOWN SINGLE AND HORIZONTAL DOUBLE;3DOUBLE AND HORIZONTAL SINGLE",
   "2566;0BOX DRAWINGS DOUBLE DOWN AND HORIZONTAL;2UP SINGLE AND HORIZONTAL DOUBLE",
   "2568;0BOX DRAWINGS UP DOUBLE AND HORIZONTAL SINGLE;2DOUBLE UP AND HORIZONTAL",
   "256a;0BOX DRAWINGS VERTICAL SINGLE AND HORIZONTAL DOUBLE;3DOUBLE AND HORIZONTAL SINGLE",
   "256c;0BOX DRAWINGS DOUBLE VERTICAL AND HORIZONTAL;2LIGHT ARC DOWN AND RIGHT;6LEFT",
   "256f;0BOX DRAWINGS LIGHT ARC UP AND LEFT;6RIGHT;3DIAGONAL UPPER RIGHT TO LOWER LEFT",
   "2572;0BOX DRAWINGS LIGHT DIAGONAL UPPER LEFT TO LOWER RIGHT;4CROSS;3LEFT;3UP;3RIGHT;3DOWN",
   "2578;0BOX DRAWINGS HEAVY LEFT;3UP;3RIGHT;3DOWN;2LIGHT LEFT AND HEAVY RIGHT",
   "257d;0BOX DRAWINGS LIGHT UP AND HEAVY DOWN;2HEAVY LEFT AND LIGHT RIGHT;3UP AND LIGHT DOWN",
   "2580;0UPPER HALF BLOCK;0LOWER ONE EIGHTH BLOCK;2QUARTER BLOCK;1THREE EIGHTHS BLOCK",
   "2584;0LOWER HALF BLOCK;1FIVE EIGHTHS BLOCK;1THREE QUARTERS BLOCK;1SEVEN EIGHTHS BLOCK",
   "2588;0FULL BLOCK;0LEFT SEVEN EIGHTHS BLOCK;1THREE QUARTERS BLOCK;1FIVE EIGHTHS BLOCK",
   "258c;0LEFT HALF BLOCK;1THREE EIGHTHS BLOCK;1ONE QUARTER BLOCK;2EIGHTH BLOCK",
   "2590;0RIGHT HALF BLOCK;0LIGHT SHADE;0MEDIUM SHADE;0DARK SHADE;0UPPER ONE EIGHTH BLOCK",
   "2595;0RIGHT ONE EIGHTH BLOCK;0QUADRANT LOWER LEFT;2RIGHT;1UPPER LEFT",
   "2599;0QUADRANT UPPER LEFT AND LOWER LEFT AND LOWER RIGHT;5RIGHT;4UPPER RIGHT AND LOWER LEFT",
   "259c;0QUADRANT UPPER LEFT AND UPPER RIGHT AND LOWER RIGHT;2RIGHT;3AND LOWER LEFT",
   "259f;0QUADRANT UPPER RIGHT AND LOWER LEFT AND LOWER RIGHT;0BLACK SQUARE;0WHITE SQUARE",
   "25a2;0WHITE SQUARE WITH ROUNDED CORNERS;2CONTAINING BLACK SMALL SQUARE",
   "25a4;0SQUARE WITH HORIZONTAL FILL;2VERTICAL FILL;2ORTHOGONAL CROSSHATCH FILL",
   "25a7;0SQUARE WITH UPPER LEFT TO LOWER RIGHT FILL;3RIGHT TO LOWER LEFT FILL",
   "25a9;0SQUARE WITH DIAGONAL CROSSHATCH FILL;0BLACK SMALL SQUARE;0WHITE SMALL SQUARE",
   "25ac;0BLACK RECTANGLE;0WHITE RECTANGLE;0BLACK VERTICAL RECTANGLE;0WHITE VERTICAL RECTANGLE",
   "25b0;0BLACK PARALLELOGRAM;0WHITE PARALLELOGRAM;0BLACK UP-POINTING TRIANGLE",
   "25b3;0WHITE UP-POINTING TRIANGLE;0BLACK UP-POINTING SMALL TRIANGLE",
   "25b5;0WHITE UP-POINTING SMALL TRIANGLE;0BLACK RIGHT-POINTING TRIANGLE",
   "25b7;0WHITE RIGHT-POINTING TRIANGLE;0BLACK RIGHT-POINTING SMALL TRIANGLE",
   "25b9;0WHITE RIGHT-POINTING SMALL TRIANGLE;0BLACK RIGHT-POINTING POINTER",
   "25bb;0WHITE RIGHT-POINTING POINTER;0BLACK DOWN-POINTING TRIANGLE",
   "25bd;0WHITE DOWN-POINTING TRIANGLE;0BLACK DOWN-POINTING SMALL TRIANGLE",
   "25bf;0WHITE DOWN-POINTING SMALL TRIANGLE;0BLACK LEFT-POINTING TRIANGLE",
   "25c1;0WHITE LEFT-POINTING TRIANGLE;0BLACK LEFT-POINTING SMALL TRIANGLE",
   "25c3;0WHITE LEFT-POINTING SMALL TRIANGLE;0BLACK LEFT-POINTING POINTER",
   "25c5;0WHITE LEFT-POINTING POINTER;0BLACK DIAMOND;0WHITE DIAMOND",
   "25c8;0WHITE DIAMOND CONTAINING BLACK SMALL DIAMOND;0FISHEYE;0LOZENGE;0WHITE CIRCLE",
   "25cc;0DOTTED CIRCLE;0CIRCLE WITH VERTICAL FILL;0BULLSEYE;0BLACK CIRCLE",
   "25d0;0CIRCLE WITH LEFT HALF BLACK;2RIGHT HALF BLACK;2LOWER HALF BLACK;2UPPER HALF BLACK",
   "25d4;0CIRCLE WITH UPPER RIGHT QUADRANT BLACK;2ALL BUT UPPER LEFT QUADRANT BLACK",
   "25d6;0LEFT HALF BLACK CIRCLE;0RIGHT HALF BLACK CIRCLE;0INVERSE BULLET;1WHITE CIRCLE",
   "25da;0UPPER HALF INVERSE WHITE CIRCLE;0LOWER HALF INVERSE WHITE CIRCLE",
   "25dc;0UPPER LEFT QUADRANT CIRCULAR ARC;1RIGHT QUADRANT CIRCULAR ARC",
   "25de;0LOWER RIGHT QUADRANT CIRCULAR ARC;1LEFT QUADRANT CIRCULAR ARC;0UPPER HALF CIRCLE",
   "25e1;0LOWER HALF CIRCLE;0BLACK LOWER RIGHT TRIANGLE;2LEFT TRIANGLE;1UPPER LEFT TRIANGLE",
   "25e5;0BLACK UPPER RIGHT TRIANGLE;0WHITE BULLET;0SQUARE WITH LEFT HALF BLACK",
   "25e8;0SQUARE WITH RIGHT HALF BLACK;2UPPER LEFT DIAGONAL HALF BLACK",
   "25ea;0SQUARE WITH LOWER RIGHT DIAGONAL HALF BLACK;0WHITE SQUARE WITH VERTICAL BISECTING LINE",
   "25ec;0WHITE UP-POINTING TRIANGLE WITH DOT;0UP-POINTING TRIANGLE WITH LEFT HALF BLACK",
   "25ee;0UP-POINTING TRIANGLE WITH RIGHT HALF BLACK;0LARGE CIRCLE",
   "25f0;0WHITE SQUARE WITH UPPER LEFT QUADRANT;3LOWER LEFT QUADRANT;4RIGHT QUADRANT",
   "25f3;0WHITE SQUARE WITH UPPER RIGHT QUADRANT;1CIRCLE WITH UPPER LEFT QUADRANT",
   "25f5;0WHITE CIRCLE WITH LOWER LEFT QUADRANT;4RIGHT QUADRANT;3UPPER RIGHT QUADRANT",
   "25f8;0UPPER LEFT TRIANGLE;1RIGHT TRIANGLE;0LOWER LEFT TRIANGLE;0WHITE MEDIUM SQUARE",
   "25fc;0BLACK MEDIUM SQUARE;0WHITE MEDIUM SMALL SQUARE;0BLACK MEDIUM SMALL SQUARE",
   "25ff;0LOWER RIGHT TRIANGLE;0BLACK SUN WITH RAYS;0CLOUD;0UMBRELLA;0SNOWMAN;0COMET;0BLACK STAR",
   "2606;0WHITE STAR;0LIGHTNING;0THUNDERSTORM;0SUN;0ASCENDING NODE;0DESCENDING NODE;0CONJUNCTION",
   "260d;0OPPOSITION;0BLACK TELEPHONE;0WHITE TELEPHONE;0BALLOT BOX;2WITH CHECK;3X;0SALTIRE",
   "2614;0UMBRELLA WITH RAIN DROPS;0HOT BEVERAGE;0WHITE SHOGI PIECE;0BLACK SHOGI PIECE;0SHAMROCK",
   "2619;0REVERSED ROTATED FLORAL HEART BULLET;0BLACK LEFT POINTING INDEX;1RIGHT POINTING INDEX",
   "261c;0WHITE LEFT POINTING INDEX;1UP POINTING INDEX;1RIGHT POINTING INDEX",
   "261f;0WHITE DOWN POINTING INDEX;0SKULL AND CROSSBONES;0CAUTION SIGN;0RADIOACTIVE SIGN",
   "2623;0BIOHAZARD SIGN;0CADUCEUS;0ANKH;0ORTHODOX CROSS;0CHI RHO;0CROSS OF LORRAINE;2JERUSALEM",
   "262a;0STAR AND CRESCENT;0FARSI SYMBOL;0ADI SHAKTI;0HAMMER AND SICKLE;0PEACE SYMBOL;0YIN YANG",
   "2630;0TRIGRAM FOR HEAVEN;2LAKE;2FIRE;2THUNDER;2WIND;2WATER;2MOUNTAIN;2EARTH;0WHEEL OF DHARMA",
   "2639;0WHITE FROWNING FACE;1SMILING FACE;0BLACK SMILING FACE;0WHITE SUN WITH RAYS",
   "263d;0FIRST QUARTER MOON;0LAST QUARTER MOON;0MERCURY;0FEMALE SIGN;0EARTH;0MALE SIGN;0JUPITER",
   "2644;0SATURN;0URANUS;0NEPTUNE;0PLUTO;0ARIES;0TAURUS;0GEMINI;0CANCER;0LEO;0VIRGO;0LIBRA",
   "264f;0SCORPIUS;0SAGITTARIUS;0CAPRICORN;0AQUARIUS;0PISCES;0WHITE CHESS KING;2QUEEN;2ROOK",
   "2657;0WHITE CHESS BISHOP;2KNIGHT;2PAWN;0BLACK CHESS KING;2QUEEN;2ROOK;2BISHOP;2KNIGHT;2PAWN",
   "2660;0BLACK SPADE SUIT;0WHITE HEART SUIT;1DIAMOND SUIT;0BLACK CLUB SUIT;0WHITE SPADE SUIT",
   "2665;0BLACK HEART SUIT;1DIAMOND SUIT;0WHITE CLUB SUIT;0HOT SPRINGS;0QUARTER NOTE",
   "266a;0EIGHTH NOTE;0BEAMED EIGHTH NOTES;1SIXTEENTH NOTES;0MUSIC FLAT SIGN;1NATURAL SIGN",
   "266f;0MUSIC SHARP SIGN;0WEST SYRIAC CROSS;0EAST SYRIAC CROSS;0UNIVERSAL RECYCLING SYMBOL",
   "2673;0RECYCLING SYMBOL FOR TYPE-1 PLASTICS;3TYPE-2 PLASTICS;3TYPE-3 PLASTICS",
   "2676;0RECYCLING SYMBOL FOR TYPE-4 PLASTICS;3TYPE-5 PLASTICS;3TYPE-6 PLASTICS",
   "2679;0RECYCLING SYMBOL FOR TYPE-7 PLASTICS;3GENERIC MATERIALS",
   "267b;0BLACK UNIVERSAL RECYCLING SYMBOL;0RECYCLED PAPER SYMBOL",
   "267d;0PARTIALLY-RECYCLED PAPER SYMBOL;0PERMANENT PAPER SIGN;0WHEELCHAIR SYMBOL;0DIE FACE-1",
   "2681;0DIE FACE-2;1FACE-3;1FACE-4;1FACE-5;1FACE-6;0WHITE CIRCLE WITH DOT RIGHT;3TWO DOTS",
   "2688;0BLACK CIRCLE WITH WHITE DOT RIGHT;3TWO WHITE DOTS;0MONOGRAM FOR YANG;2YIN",
   "268c;0DIGRAM FOR GREATER YANG;2LESSER YIN;3YANG;2GREATER YIN;0WHITE FLAG;0BLACK FLAG",
   "2692;0HAMMER AND PICK;0ANCHOR;0CROSSED SWORDS;0STAFF OF AESCULAPIUS;0SCALES;0ALEMBIC;0FLOWER",
   "2699;0GEAR;0STAFF OF HERMES;0ATOM SYMBOL;0FLEUR-DE-LIS;0OUTLINED WHITE STAR",
   "269e;0THREE LINES CONVERGING RIGHT;3LEFT;0WARNING SIGN;0HIGH VOLTAGE SIGN",
   "26a2;0DOUBLED FEMALE SIGN;1MALE SIGN;0INTERLOCKED FEMALE AND MALE SIGN;0MALE AND FEMALE SIGN",
   "26a6;0MALE WITH STROKE SIGN;3AND MALE AND FEMALE SIGN;0VERTICAL MALE WITH STROKE SIGN",
   "26a9;0HORIZONTAL MALE WITH STROKE SIGN;0MEDIUM WHITE CIRCLE;1BLACK CIRCLE",
   "26ac;0MEDIUM SMALL WHITE CIRCLE;0MARRIAGE SYMBOL;0DIVORCE SYMBOL",
   "26af;0UNMARRIED PARTNERSHIP SYMBOL;0COFFIN;0FUNERAL URN;0NEUTER;0CERES;0PALLAS;0JUNO;0VESTA",
   "26b7;0CHIRON;0BLACK MOON LILITH;0SEXTILE;0SEMISEXTILE;0QUINCUNX;0SESQUIQUADRATE;0SOCCER BALL",
   "26be;0BASEBALL;0SQUARED KEY;0WHITE DRAUGHTS MAN;2KING;0BLACK DRAUGHTS MAN;2KING",
   "26c4;0SNOWMAN WITHOUT SNOW;0SUN BEHIND CLOUD;0RAIN;0BLACK SNOWMAN;0THUNDER CLOUD AND RAIN",
   "26c9;0TURNED WHITE SHOGI PIECE;1BLACK SHOGI PIECE;0WHITE DIAMOND IN SQUARE;0CROSSING LANES",
   "26cd;0DISABLED CAR;0OPHIUCHUS;0PICK;0CAR SLIDING;0HELMET WITH WHITE CROSS",
   "26d2;0CIRCLED CROSSING LANES;0CHAINS;0NO ENTRY;0ALTERNATE ONE-WAY LEFT WAY TRAFFIC",
   "26d6;0BLACK TWO-WAY LEFT WAY TRAFFIC;0WHITE TWO-WAY LEFT WAY TRAFFIC;0BLACK LEFT LANE MERGE",
   "26d9;0WHITE LEFT LANE MERGE;0DRIVE SLOW SIGN;0HEAVY WHITE DOWN-POINTING TRIANGLE",
   "26dc;0LEFT CLOSED ENTRY;0SQUARED SALTIRE;0FALLING DIAGONAL IN WHITE CIRCLE IN BLACK SQUARE",
   "26df;0BLACK TRUCK;0RESTRICTED LEFT ENTRY-1;2ENTRY-2;0ASTRONOMICAL SYMBOL FOR URANUS",
   "26e3;0HEAVY CIRCLE WITH STROKE AND TWO DOTS ABOVE;0PENTAGRAM",
   "26e5;0RIGHT-HANDED INTERLACED PENTAGRAM;0LEFT-HANDED INTERLACED PENTAGRAM",
   "26e7;0INVERTED PENTAGRAM;0BLACK CROSS ON SHIELD;0SHINTO SHRINE;0CHURCH;0CASTLE",
   "26ec;0HISTORIC SITE;0GEAR WITHOUT HUB;1WITH HANDLES;0MAP SYMBOL FOR LIGHTHOUSE;0MOUNTAIN",
   "26f1;0UMBRELLA ON GROUND;0FOUNTAIN;0FLAG IN HOLE;0FERRY;0SAILBOAT;0SQUARE FOUR CORNERS",
   "26f7;0SKIER;0ICE SKATE;0PERSON WITH BALL;0TENT;0JAPANESE BANK SYMBOL",
   "26fc;0HEADSTONE GRAVEYARD SYMBOL;0FUEL PUMP;0CUP ON BLACK SQUARE",
   "26ff;0WHITE FLAG WITH HORIZONTAL MIDDLE BLACK STRIPE;0BLACK SAFETY SCISSORS",
   "2701;0UPPER BLADE SCISSORS;0BLACK SCISSORS;0LOWER BLADE SCISSORS;0WHITE SCISSORS",
   "2705;0WHITE HEAVY CHECK MARK;0TELEPHONE LOCATION SIGN;0TAPE DRIVE;0AIRPLANE;0ENVELOPE",
   "270a;0RAISED FIST;1HAND;0VICTORY HAND;0WRITING HAND;0LOWER RIGHT PENCIL;0PENCIL",
   "2710;0UPPER RIGHT PENCIL;0WHITE NIB;0BLACK NIB;0CHECK MARK;0HEAVY CHECK MARK",
   "2715;0MULTIPLICATION X;0HEAVY MULTIPLICATION X;0BALLOT X;0HEAVY BALLOT X",
   "2719;0OUTLINED GREEK CROSS;0HEAVY GREEK CROSS;0OPEN CENTRE CROSS;0HEAVY OPEN CENTRE CROSS",
   "271d;0LATIN CROSS;0SHADOWED WHITE LATIN CROSS;0OUTLINED LATIN CROSS;0MALTESE CROSS",
   "2721;0STAR OF DAVID;0FOUR TEARDROP-SPOKED ASTERISK;1BALLOON-SPOKED ASTERISK",
   "2724;0HEAVY FOUR BALLOON-SPOKED ASTERISK;0FOUR CLUB-SPOKED ASTERISK;0BLACK FOUR POINTED STAR",
   "2727;0WHITE FOUR POINTED STAR;0SPARKLES;0STRESS OUTLINED WHITE STAR;0CIRCLED WHITE STAR",
   "272b;0OPEN CENTRE BLACK STAR;0BLACK CENTRE WHITE STAR;0OUTLINED BLACK STAR",
   "272e;0HEAVY OUTLINED BLACK STAR;0PINWHEEL STAR;0SHADOWED WHITE STAR;0HEAVY ASTERISK",
   "2732;0OPEN CENTRE ASTERISK;0EIGHT SPOKED ASTERISK;1POINTED BLACK STAR;2PINWHEEL STAR",
   "2736;0SIX POINTED BLACK STAR;0EIGHT POINTED RECTILINEAR BLACK STAR",
   "2738;0HEAVY EIGHT POINTED RECTILINEAR BLACK STAR;0TWELVE POINTED BLACK STAR",
   "273a;0SIXTEEN POINTED ASTERISK;0TEARDROP-SPOKED ASTERISK",
   "273c;0OPEN CENTRE TEARDROP-SPOKED ASTERISK;0HEAVY TEARDROP-SPOKED ASTERISK",
   "273e;0SIX PETALLED BLACK AND WHITE FLORETTE;0BLACK FLORETTE;0WHITE FLORETTE",
   "2741;0EIGHT PETALLED OUTLINED BLACK FLORETTE;0CIRCLED OPEN CENTRE EIGHT POINTED STAR",
   "2743;0HEAVY TEARDROP-SPOKED PINWHEEL ASTERISK;0SNOWFLAKE;0TIGHT TRIFOLIATE SNOWFLAKE",
   "2746;0HEAVY CHEVRON SNOWFLAKE;0SPARKLE;0HEAVY SPARKLE;0BALLOON-SPOKED ASTERISK",
   "274a;0EIGHT TEARDROP-SPOKED PROPELLER ASTERISK",
   "274b;0HEAVY EIGHT TEARDROP-SPOKED PROPELLER ASTERISK;0CROSS MARK;0SHADOWED WHITE CIRCLE",
   "274e;0NEGATIVE SQUARED CROSS MARK;0LOWER RIGHT DROP-SHADOWED WHITE SQUARE",
   "2750;0UPPER RIGHT DROP-SHADOWED WHITE SQUARE;0LOWER RIGHT SHADOWED WHITE SQUARE",
   "2752;0UPPER RIGHT SHADOWED WHITE SQUARE;0BLACK QUESTION MARK ORNAMENT",
   "2754;0WHITE QUESTION MARK ORNAMENT;1EXCLAMATION MARK ORNAMENT;0BLACK DIAMOND MINUS WHITE X",
   "2757;0HEAVY EXCLAMATION MARK SYMBOL;0LIGHT VERTICAL BAR;0MEDIUM VERTICAL BAR",
   "275a;0HEAVY VERTICAL BAR;1SINGLE TURNED COMMA QUOTATION MARK ORNAMENT",
   "275c;0HEAVY SINGLE COMMA QUOTATION MARK ORNAMENT",
   "275d;0HEAVY DOUBLE TURNED COMMA QUOTATION MARK ORNAMENT;2COMMA QUOTATION MARK ORNAMENT",
   "275f;0HEAVY LOW SINGLE COMMA QUOTATION MARK ORNAMENT;2DOUBLE COMMA QUOTATION MARK ORNAMENT",
   "2761;0CURVED STEM PARAGRAPH SIGN ORNAMENT;0HEAVY EXCLAMATION MARK ORNAMENT",
   "2763;0HEAVY HEART EXCLAMATION MARK ORNAMENT;1BLACK HEART;0ROTATED HEAVY BLACK HEART BULLET",
   "2766;0FLORAL HEART;0ROTATED FLORAL HEART BULLET;0MEDIUM LEFT PARENTHESIS ORNAMENT",
   "2769;0MEDIUM RIGHT PARENTHESIS ORNAMENT;1FLATTENED LEFT PARENTHESIS ORNAMENT",
   "276b;0MEDIUM FLATTENED RIGHT PARENTHESIS ORNAMENT;1LEFT-POINTING ANGLE BRACKET ORNAMENT",
   "276d;0MEDIUM RIGHT-POINTING ANGLE BRACKET ORNAMENT",
   "276e;0HEAVY LEFT-POINTING ANGLE QUOTATION MARK ORNAMENT",
   "276f;0HEAVY RIGHT-POINTING ANGLE QUOTATION MARK ORNAMENT",
   "2770;0HEAVY LEFT-POINTING ANGLE BRACKET ORNAMENT;1RIGHT-POINTING ANGLE BRACKET ORNAMENT",
   "2772;0LIGHT LEFT TORTOISE SHELL BRACKET ORNAMENT;1RIGHT TORTOISE SHELL BRACKET ORNAMENT",
   "2774;0MEDIUM LEFT CURLY BRACKET ORNAMENT;1RIGHT CURLY BRACKET ORNAMENT",
   "2776;0DINGBAT NEGATIVE CIRCLED DIGIT ONE;4TWO;4THREE;4FOUR;4FIVE;4SIX;4SEVEN;4EIGHT;4NINE",
   "277f;0DINGBAT NEGATIVE CIRCLED NUMBER TEN;1CIRCLED SANS-SERIF DIGIT ONE;4TWO;4THREE;4FOUR",
   "2784;0DINGBAT CIRCLED SANS-SERIF DIGIT FIVE;4SIX;4SEVEN;4EIGHT;4NINE;3NUMBER TEN",
   "278a;0DINGBAT NEGATIVE CIRCLED SANS-SERIF DIGIT ONE;5TWO;5THREE;5FOUR;5FIVE;5SIX;5SEVEN",
   "2791;0DINGBAT NEGATIVE CIRCLED SANS-SERIF DIGIT EIGHT;5NINE;4NUMBER TEN",
   "2794;0HEAVY WIDE-HEADED RIGHTWARDS ARROW;1PLUS SIGN;1MINUS SIGN;1DIVISION SIGN",
   "2798;0HEAVY SOUTH EAST ARROW;1RIGHTWARDS ARROW;1NORTH EAST ARROW",
   "279b;0DRAFTING POINT RIGHTWARDS ARROW;0HEAVY ROUND-TIPPED RIGHTWARDS ARROW",
   "279d;0TRIANGLE-HEADED RIGHTWARDS ARROW;0HEAVY TRIANGLE-HEADED RIGHTWARDS ARROW",
   "279f;0DASHED TRIANGLE-HEADED RIGHTWARDS ARROW;0HEAVY DASHED TRIANGLE-HEADED RIGHTWARDS ARROW",
   "27a1;0BLACK RIGHTWARDS ARROW;0THREE-D TOP-LIGHTED RIGHTWARDS ARROWHEAD",
   "27a3;0THREE-D BOTTOM-LIGHTED RIGHTWARDS ARROWHEAD;0BLACK RIGHTWARDS ARROWHEAD",
   "27a5;0HEAVY BLACK CURVED DOWNWARDS AND RIGHTWARDS ARROW;3UPWARDS AND RIGHTWARDS ARROW",
   "27a7;0SQUAT BLACK RIGHTWARDS ARROW;0HEAVY CONCAVE-POINTED BLACK RIGHTWARDS ARROW",
   "27a9;0RIGHT-SHADED WHITE RIGHTWARDS ARROW;0LEFT-SHADED WHITE RIGHTWARDS ARROW",
   "27ab;0BACK-TILTED SHADOWED WHITE RIGHTWARDS ARROW",
   "27ac;0FRONT-TILTED SHADOWED WHITE RIGHTWARDS ARROW",
   "27ad;0HEAVY LOWER RIGHT-SHADOWED WHITE RIGHTWARDS ARROW",
   "27ae;0HEAVY UPPER RIGHT-SHADOWED WHITE RIGHTWARDS ARROW",
   "27af;0NOTCHED LOWER RIGHT-SHADOWED WHITE RIGHTWARDS ARROW;0CURLY LOOP",
   "27b1;0NOTCHED UPPER RIGHT-SHADOWED WHITE RIGHTWARDS ARROW",
   "27b2;0CIRCLED HEAVY WHITE RIGHTWARDS ARROW;0WHITE-FEATHERED RIGHTWARDS ARROW",
   "27b4;0BLACK-FEATHERED SOUTH EAST ARROW;1RIGHTWARDS ARROW;1NORTH EAST ARROW",
   "27b7;0HEAVY BLACK-FEATHERED SOUTH EAST ARROW;2RIGHTWARDS ARROW;2NORTH EAST ARROW",
   "27ba;0TEARDROP-BARBED RIGHTWARDS ARROW;0HEAVY TEARDROP-SHANKED RIGHTWARDS ARROW",
   "27bc;0WEDGE-TAILED RIGHTWARDS ARROW;0HEAVY WEDGE-TAILED RIGHTWARDS ARROW",
   "27be;0OPEN-OUTLINED RIGHTWARDS ARROW;0DOUBLE CURLY LOOP",
   "3000;0IDEOGRAPHIC SPACE;1COMMA;1FULL STOP;0DITTO MARK;0JAPANESE INDUSTRIAL STANDARD SYMBOL",
   "3005;0IDEOGRAPHIC ITERATION MARK;1CLOSING MARK;1NUMBER ZERO;0LEFT ANGLE BRACKET",
   "3009;0RIGHT ANGLE BRACKET;0LEFT DOUBLE ANGLE BRACKET;0RIGHT DOUBLE ANGLE BRACKET",
   "300c;0LEFT CORNER BRACKET;0RIGHT CORNER BRACKET;0LEFT WHITE CORNER BRACKET",
   "300f;0RIGHT WHITE CORNER BRACKET;0LEFT BLACK LENTICULAR BRACKET",
   "3011;0RIGHT BLACK LENTICULAR BRACKET;0POSTAL MARK;0GETA MARK;0LEFT TORTOISE SHELL BRACKET",
   "3015;0RIGHT TORTOISE SHELL BRACKET;0LEFT WHITE LENTICULAR BRACKET",
   "3017;0RIGHT WHITE LENTICULAR BRACKET;0LEFT WHITE TORTOISE SHELL BRACKET",
   "3019;0RIGHT WHITE TORTOISE SHELL BRACKET;0LEFT WHITE SQUARE BRACKET",
   "301b;0RIGHT WHITE SQUARE BRACKET;0WAVE DASH;0REVERSED DOUBLE PRIME QUOTATION MARK",
   "301e;0DOUBLE PRIME QUOTATION MARK;0LOW DOUBLE PRIME QUOTATION MARK;0POSTAL MARK FACE",
   "3021;0HANGZHOU NUMERAL ONE;2TWO;2THREE;2FOUR;2FIVE;2SIX;2SEVEN;2EIGHT;2NINE",
   "302a;0IDEOGRAPHIC LEVEL TONE MARK;1RISING TONE MARK;1DEPARTING TONE MARK;1ENTERING TONE MARK",
   "302e;0HANGUL SINGLE DOT TONE MARK;1DOUBLE DOT TONE MARK;0WAVY DASH",
   "3031;0VERTICAL KANA REPEAT MARK;3WITH VOICED SOUND MARK;3MARK UPPER HALF",
   "3034;0VERTICAL KANA REPEAT WITH VOICED SOUND MARK UPPER HALF;3MARK LOWER HALF",
   "3036;0CIRCLED POSTAL MARK;0IDEOGRAPHIC TELEGRAPH LINE FEED SEPARATOR SYMBOL",
   "3038;0HANGZHOU NUMERAL TEN;2TWENTY;2THIRTY;0VERTICAL IDEOGRAPHIC ITERATION MARK;0MASU MARK",
   "303d;0PART ALTERNATION MARK;0IDEOGRAPHIC VARIATION INDICATOR;1HALF FILL SPACE",
   "3041;0HIRAGANA LETTER SMALL A;2A;2SMALL I;2I;2SMALL U;2U;2SMALL E;2E;2SMALL O;2O;2KA;2GA;2KI",
   "304e;0HIRAGANA LETTER GI;2KU;2GU;2KE;2GE;2KO;2GO;2SA;2ZA;2SI;2ZI;2SU;2ZU;2SE;2ZE;2SO;2ZO;2TA",
   "3060;0HIRAGANA LETTER DA;2TI;2DI;2SMALL TU;2TU;2DU;2TE;2DE;2TO;2DO;2NA;2NI;2NU;2NE;2NO;2HA",
   "3070;0HIRAGANA LETTER BA;2PA;2HI;2BI;2PI;2HU;2BU;2PU;2HE;2BE;2PE;2HO;2BO;2PO;2MA;2MI;2MU;2ME",
   "3082;0HIRAGANA LETTER MO;2SMALL YA;2YA;2SMALL YU;2YU;2SMALL YO;2YO;2RA;2RI;2RU;2RE;2RO",
   "308e;0HIRAGANA LETTER SMALL WA;2WA;2WI;2WE;2WO;2N;2VU;2SMALL KA;3KE",
   "3099;0COMBINING KATAKANA-HIRAGANA VOICED SOUND MARK;2SEMI-VOICED SOUND MARK",
   "309b;0KATAKANA-HIRAGANA VOICED SOUND MARK;1SEMI-VOICED SOUND MARK;0HIRAGANA ITERATION MARK",
   "309e;0HIRAGANA VOICED ITERATION MARK;1DIGRAPH YORI;0KATAKANA-HIRAGANA DOUBLE HYPHEN",
   "30a1;0KATAKANA LETTER SMALL A;2A;2SMALL I;2I;2SMALL U;2U;2SMALL E;2E;2SMALL O;2O;2KA;2GA;2KI",
   "30ae;0KATAKANA LETTER GI;2KU;2GU;2KE;2GE;2KO;2GO;2SA;2ZA;2SI;2ZI;2SU;2ZU;2SE;2ZE;2SO;2ZO;2TA",
   "30c0;0KATAKANA LETTER DA;2TI;2DI;2SMALL TU;2TU;2DU;2TE;2DE;2TO;2DO;2NA;2NI;2NU;2NE;2NO;2HA",
   "30d0;0KATAKANA LETTER BA;2PA;2HI;2BI;2PI;2HU;2BU;2PU;2HE;2BE;2PE;2HO;2BO;2PO;2MA;2MI;2MU;2ME",
   "30e2;0KATAKANA LETTER MO;2SMALL YA;2YA;2SMALL YU;2YU;2SMALL YO;2YO;2RA;2RI;2RU;2RE;2RO",
   "30ee;0KATAKANA LETTER SMALL WA;2WA;2WI;2WE;2WO;2N;2VU;2SMALL KA;3KE;2VA;2VI;2VE;2VO",
   "30fb;0KATAKANA MIDDLE DOT;0KATAKANA-HIRAGANA PROLONGED SOUND MARK;0KATAKANA ITERATION MARK",
   "30fe;0KATAKANA VOICED ITERATION MARK;1DIGRAPH KOTO",
   "fb00;0LATIN SMALL LIGATURE FF;3FI;3FL;3FFI;3FFL;3LONG S T;3ST",
   "fe00;0VARIATION SELECTOR-1;1SELECTOR-2;1SELECTOR-3;1SELECTOR-4;1SELECTOR-5;1SELECTOR-6",
   "fe06;0VARIATION SELECTOR-7;1SELECTOR-8;1SELECTOR-9;1SELECTOR-10;1SELECTOR-11;1SELECTOR-12",
   "fe0c;0VARIATION SELECTOR-13;1SELECTOR-14;1SELECTOR-15;1SELECTOR-16",
   "ff01;0FULLWIDTH EXCLAMATION MARK;1QUOTATION MARK;1NUMBER SIGN;1DOLLAR SIGN;1PERCENT SIGN",
   "ff06;0FULLWIDTH AMPERSAND;1APOSTROPHE;1LEFT PARENTHESIS;1RIGHT PARENTHESIS;1ASTERISK",
   "ff0b;0FULLWIDTH PLUS SIGN;1COMMA;1HYPHEN-MINUS;1FULL STOP;1SOLIDUS;1DIGIT ZERO;2ONE;2TWO",
   "ff13;0FULLWIDTH DIGIT THREE;2FOUR;2FIVE;2SIX;2SEVEN;2EIGHT;2NINE;1COLON;1SEMICOLON",
   "ff1c;0FULLWIDTH LESS-THAN SIGN;1EQUALS SIGN;1GREATER-THAN SIGN;1QUESTION MARK;1COMMERCIAL AT",
   "ff21;0FULLWIDTH LATIN CAPITAL LETTER A;4B;4C;4D;4E;4F;4G;4H;4I;4J;4K;4L;4M;4N;4O;4P;4Q;4R;4S",
   "ff34;0FULLWIDTH LATIN CAPITAL LETTER T;4U;4V;4W;4X;4Y;4Z;1LEFT SQUARE BRACKET",
   "ff3c;0FULLWIDTH REVERSE SOLIDUS;1RIGHT SQUARE BRACKET;1CIRCUMFLEX ACCENT;1LOW LINE",
   "ff40;0FULLWIDTH GRAVE ACCENT;1LATIN SMALL LETTER A;4B;4C;4D;4E;4F;4G;4H;4I;4J;4K;4L;4M;4N;4O",
   "ff50;0FULLWIDTH LATIN SMALL LETTER P;4Q;4R;4S;4T;4U;4V;4W;4X;4Y;4Z;1LEFT CURLY BRACKET",
   "ff5c;0FULLWIDTH VERTICAL LINE;1RIGHT CURLY BRACKET;1TILDE;1LEFT WHITE PARENTHESIS",
   "ff60;0FULLWIDTH RIGHT WHITE PARENTHESIS;0HALFWIDTH IDEOGRAPHIC FULL STOP",
   "ff62;0HALFWIDTH LEFT CORNER BRACKET;1RIGHT CORNER BRACKET;1IDEOGRAPHIC COMMA",
   "ff65;0HALFWIDTH KATAKANA MIDDLE DOT;2LETTER WO;3SMALL A;4I;4U;4E;4O;4YA;4YU;4YO;4TU",
   "ff70;0HALFWIDTH KATAKANA-HIRAGANA PROLONGED SOUND MARK;1KATAKANA LETTER A;3I;3U;3E;3O;3KA",
   "ff77;0HALFWIDTH KATAKANA LETTER KI;3KU;3KE;3KO;3SA;3SI;3SU;3SE;3SO;3TA;3TI;3TU;3TE;3TO;3NA",
   "ff86;0HALFWIDTH KATAKANA LETTER NI;3NU;3NE;3NO;3HA;3HI;3HU;3HE;3HO;3MA;3MI;3MU;3ME;3MO;3YA",
   "ff95;0HALFWIDTH KATAKANA LETTER YU;3YO;3RA;3RI;3RU;3RE;3RO;3WA;3N;2VOICED SOUND MARK",
   "ff9f;0HALFWIDTH KATAKANA SEMI-VOICED SOUND MARK;1HANGUL FILLER;2LETTER KIYEOK;3SSANGKIYEOK",
   "ffa3;0HALFWIDTH HANGUL LETTER KIYEOK-SIOS;3NIEUN;3NIEUN-CIEUC;3NIEUN-HIEUH;3TIKEUT",
   "ffa8;0HALFWIDTH HANGUL LETTER SSANGTIKEUT;3RIEUL;3RIEUL-KIYEOK;3RIEUL-MIEUM;3RIEUL-PIEUP",
   "ffad;0HALFWIDTH HANGUL LETTER RIEUL-SIOS;3RIEUL-THIEUTH;3RIEUL-PHIEUPH;3RIEUL-HIEUH;3MIEUM",
   "ffb2;0HALFWIDTH HANGUL LETTER PIEUP;3SSANGPIEUP;3PIEUP-SIOS;3SIOS;3SSANGSIOS;3IEUNG;3CIEUC",
   "ffb9;0HALFWIDTH HANGUL LETTER SSANGCIEUC;3CHIEUCH;3KHIEUKH;3THIEUTH;3PHIEUPH;3HIEUH",
   "ffc2;0HALFWIDTH HANGUL LETTER A;3AE;3YA;3YAE;3EO;3E",
   "ffca;0HALFWIDTH HANGUL LETTER YEO;3YE;3O;3WA;3WAE;3OE",
   "ffd2;0HALFWIDTH HANGUL LETTER YO;3U;3WEO;3WE;3WI;3YU",
   "ffda;0HALFWIDTH HANGUL LETTER EU;3YI;3I",
   "ffe0;0FULLWIDTH CENT SIGN;1POUND SIGN;1NOT SIGN;1MACRON;1BROKEN BAR;1YEN SIGN;1WON SIGN",
   "ffe8;0HALFWIDTH FORMS LIGHT VERTICAL;1LEFTWARDS ARROW;1UPWARDS ARROW;1RIGHTWARDS ARROW",
   "ffec;0HALFWIDTH DOWNWARDS ARROW;1BLACK SQUARE;1WHITE CIRCLE",
   "fff9;0INTERLINEAR ANNOTATION ANCHOR;2SEPARATOR;2TERMINATOR;0OBJECT REPLACEMENT CHARACTER",
   "fffd;0REPLACEMENT CHARACTER",
   "1d400;0MATHEMATICAL BOLD CAPITAL A;3B;3C;3D;3E;3F;3G;3H;3I;3J;3K;3L;3M;3N;3O;3P;3Q;3R;3S;3T",
   "1d414;0MATHEMATICAL BOLD CAPITAL U;3V;3W;3X;3Y;3Z;2SMALL A;3B;3C;3D;3E;3F;3G;3H;3I;3J;3K;3L",
   "1d426;0MATHEMATICAL BOLD SMALL M;3N;3O;3P;3Q;3R;3S;3T;3U;3V;3W;3X;3Y;3Z;1ITALIC CAPITAL A;3B",
   "1d436;0MATHEMATICAL ITALIC CAPITAL C;3D;3E;3F;3G;3H;3I;3J;3K;3L;3M;3N;3O;3P;3Q;3R;3S;3T;3U",
   "1d449;0MATHEMATICAL ITALIC CAPITAL V;3W;3X;3Y;3Z;2SMALL A;3B;3C;3D;3E;3F;3G",
   "1d456;0MATHEMATICAL ITALIC SMALL I;3J;3K;3L;3M;3N;3O;3P;3Q;3R;3S;3T;3U;3V;3W;3X;3Y;3Z",
   "1d468;0MATHEMATICAL BOLD ITALIC CAPITAL A;4B;4C;4D;4E;4F;4G;4H;4I;4J;4K;4L;4M;4N;4O;4P;4Q;4R",
   "1d47a;0MATHEMATICAL BOLD ITALIC CAPITAL S;4T;4U;4V;4W;4X;4Y;4Z;3SMALL A;4B;4C;4D;4E;4F;4G;4H",
   "1d48a;0MATHEMATICAL BOLD ITALIC SMALL I;4J;4K;4L;4M;4N;4O;4P;4Q;4R;4S;4T;4U;4V;4W;4X;4Y;4Z",
   "1d49c;0MATHEMATICAL SCRIPT CAPITAL A",
   "1d49e;0MATHEMATICAL SCRIPT CAPITAL C;3D",
   "1d4a2;0MATHEMATICAL SCRIPT CAPITAL G",
   "1d4a5;0MATHEMATICAL SCRIPT CAPITAL J;3K",
   "1d4a9;0MATHEMATICAL SCRIPT CAPITAL N;3O;3P;3Q",
   "1d4ae;0MATHEMATICAL SCRIPT CAPITAL S;3T;3U;3V;3W;3X;3Y;3Z;2SMALL A;3B;3C;3D",
   "1d4bb;0MATHEMATICAL SCRIPT SMALL F",
   "1d4bd;0MATHEMATICAL SCRIPT SMALL H;3I;3J;3K;3L;3M;3N",
   "1d4c5;0MATHEMATICAL SCRIPT SMALL P;3Q;3R;3S;3T;3U;3V;3W;3X;3Y;3Z;1BOLD SCRIPT CAPITAL A;4B",
   "1d4d2;0MATHEMATICAL BOLD SCRIPT CAPITAL C;4D;4E;4F;4G;4H;4I;4J;4K;4L;4M;4N;4O;4P;4Q;4R;4S;4T",
   "1d4e4;0MATHEMATICAL BOLD SCRIPT CAPITAL U;4V;4W;4X;4Y;4Z;3SMALL A;4B;4C;4D;4E;4F;4G;4H;4I;4J",
   "1d4f4;0MATHEMATICAL BOLD SCRIPT SMALL K;4L;4M;4N;4O;4P;4Q;4R;4S;4T;4U;4V;4W;4X;4Y;4Z",
   "1d504;0MATHEMATICAL FRAKTUR CAPITAL A;3B",
   "1d507;0MATHEMATICAL FRAKTUR CAPITAL D;3E;3F;3G",
   "1d50d;0MATHEMATICAL FRAKTUR CAPITAL J;3K;3L;3M;3N;3O;3P;3Q",
   "1d516;0MATHEMATICAL FRAKTUR CAPITAL S;3T;3U;3V;3W;3X;3Y",
   "1d51e;0MATHEMATICAL FRAKTUR SMALL A;3B;3C;3D;3E;3F;3G;3H;3I;3J;3K;3L;3M;3N;3O;3P;3Q;3R;3S;3T",
   "1d532;0MATHEMATICAL FRAKTUR SMALL U;3V;3W;3X;3Y;3Z;1DOUBLE-STRUCK CAPITAL A;3B",
   "1d53b;0MATHEMATICAL DOUBLE-STRUCK CAPITAL D;3E;3F;3G",
   "1d540;0MATHEMATICAL DOUBLE-STRUCK CAPITAL I;3J;3K;3L;3M",
   "1d546;0MATHEMATICAL DOUBLE-STRUCK CAPITAL O",
   "1d54a;0MATHEMATICAL DOUBLE-STRUCK CAPITAL S;3T;3U;3V;3W;3X;3Y",
   "1d552;0MATHEMATICAL DOUBLE-STRUCK SMALL A;3B;3C;3D;3E;3F;3G;3H;3I;3J;3K;3L;3M;3N;3O;3P;3Q;3R",
   "1d564;0MATHEMATICAL DOUBLE-STRUCK SMALL S;3T;3U;3V;3W;3X;3Y;3Z;1BOLD FRAKTUR CAPITAL A;4B;4C",
   "1d56f;0MATHEMATICAL BOLD FRAKTUR CAPITAL D;4E;4F;4G;4H;4I;4J;4K;4L;4M;4N;4O;4P;4Q;4R;4S;4T",
   "1d580;0MATHEMATICAL BOLD FRAKTUR CAPITAL U;4V;4W;4X;4Y;4Z;3SMALL A;4B;4C;4D;4E;4F;4G;4H;4I",
   "1d58f;0MATHEMATICAL BOLD FRAKTUR SMALL J;4K;4L;4M;4N;4O;4P;4Q;4R;4S;4T;4U;4V;4W;4X;4Y;4Z",
   "1d5a0;0MATHEMATICAL SANS-SERIF CAPITAL A;3B;3C;3D;3E;3F;3G;3H;3I;3J;3K;3L;3M;3N;3O;3P;3Q;3R",
   "1d5b2;0MATHEMATICAL SANS-SERIF CAPITAL S;3T;3U;3V;3W;3X;3Y;3Z;2SMALL A;3B;3C;3D;3E;3F;3G;3H",
   "1d5c2;0MATHEMATICAL SANS-SERIF SMALL I;3J;3K;3L;3M;3N;3O;3P;3Q;3R;3S;3T;3U;3V;3W;3X;3Y;3Z",
   "1d5d4;0MATHEMATICAL SANS-SERIF BOLD CAPITAL A;4B;4C;4D;4E;4F;4G;4H;4I;4J;4K;4L;4M;4N;4O;4P",
   "1d5e4;0MATHEMATICAL SANS-SERIF BOLD CAPITAL Q;4R;4S;4T;4U;4V;4W;4X;4Y;4Z;3SMALL A;4B;4C;4D",
   "1d5f2;0MATHEMATICAL SANS-SERIF BOLD SMALL E;4F;4G;4H;4I;4J;4K;4L;4M;4N;4O;4P;4Q;4R;4S;4T;4U",
   "1d603;0MATHEMATICAL SANS-SERIF BOLD SMALL V;4W;4X;4Y;4Z;2ITALIC CAPITAL A;4B;4C;4D;4E;4F;4G",
   "1d60f;0MATHEMATICAL SANS-SERIF ITALIC CAPITAL H;4I;4J;4K;4L;4M;4N;4O;4P;4Q;4R;4S;4T;4U;4V;4W",
   "1d61f;0MATHEMATICAL SANS-SERIF ITALIC CAPITAL X;4Y;4Z;3SMALL A;4B;4C;4D;4E;4F;4G;4H;4I;4J;4K",
   "1d62d;0MATHEMATICAL SANS-SERIF ITALIC SMALL L;4M;4N;4O;4P;4Q;4R;4S;4T;4U;4V;4W;4X;4Y;4Z",
   "1d63c;0MATHEMATICAL SANS-SERIF BOLD ITALIC CAPITAL A;5B;5C;5D;5E;5F;5G;5H;5I;5J;5K;5L;5M;5N",
   "1d64a;0MATHEMATICAL SANS-SERIF BOLD ITALIC CAPITAL O;5P;5Q;5R;5S;5T;5U;5V;5W;5X;5Y;5Z",
   "1d656;0MATHEMATICAL SANS-SERIF BOLD ITALIC SMALL A;5B;5C;5D;5E;5F;5G;5H;5I;5J;5K;5L;5M;5N;5O",
   "1d665;0MATHEMATICAL SANS-SERIF BOLD ITALIC SMALL P;5Q;5R;5S;5T;5U;5V;5W;5X;5Y;5Z",
   "1d670;0MATHEMATICAL MONOSPACE CAPITAL A;3B;3C;3D;3E;3F;3G;3H;3I;3J;3K;3L;3M;3N;3O;3P;3Q;3R",
   "1d682;0MATHEMATICAL MONOSPACE CAPITAL S;3T;3U;3V;3W;3X;3Y;3Z;2SMALL A;3B;3C;3D;3E;3F;3G;3H",
   "1d692;0MATHEMATICAL MONOSPACE SMALL I;3J;3K;3L;3M;3N;3O;3P;3Q;3R;3S;3T;3U;3V;3W;3X;3Y;3Z",
   "1d6a4;0MATHEMATICAL ITALIC SMALL DOTLESS I;4J",
   "1d6a8;0MATHEMATICAL BOLD CAPITAL ALPHA;3BETA;3GAMMA;3DELTA;3EPSILON;3ZETA;3ETA;3THETA;3IOTA",
   "1d6b1;0MATHEMATICAL BOLD CAPITAL KAPPA;3LAMDA;3MU;3NU;3XI;3OMICRON;3PI;3RHO;3THETA SYMBOL",
   "1d6ba;0MATHEMATICAL BOLD CAPITAL SIGMA;3TAU;3UPSILON;3PHI;3CHI;3PSI;3OMEGA;2NABLA",
   "1d6c2;0MATHEMATICAL BOLD SMALL ALPHA;3BETA;3GAMMA;3DELTA;3EPSILON;3ZETA;3ETA;3THETA;3IOTA",
   "1d6cb;0MATHEMATICAL BOLD SMALL KAPPA;3LAMDA;3MU;3NU;3XI;3OMICRON;3PI;3RHO;3FINAL SIGMA",
   "1d6d4;0MATHEMATICAL BOLD SMALL SIGMA;3TAU;3UPSILON;3PHI;3CHI;3PSI;3OMEGA",
   "1d6db;0MATHEMATICAL BOLD PARTIAL DIFFERENTIAL;2EPSILON SYMBOL;2THETA SYMBOL;2KAPPA SYMBOL",
   "1d6df;0MATHEMATICAL BOLD PHI SYMBOL;2RHO SYMBOL;2PI SYMBOL;1ITALIC CAPITAL ALPHA;3BETA",
   "1d6e4;0MATHEMATICAL ITALIC CAPITAL GAMMA;3DELTA;3EPSILON;3ZETA;3ETA;3THETA;3IOTA;3KAPPA",
   "1d6ec;0MATHEMATICAL ITALIC CAPITAL LAMDA;3MU;3NU;3XI;3OMICRON;3PI;3RHO;3THETA SYMBOL;3SIGMA",
   "1d6f5;0MATHEMATICAL ITALIC CAPITAL TAU;3UPSILON;3PHI;3CHI;3PSI;3OMEGA;2NABLA;2SMALL ALPHA",
   "1d6fd;0MATHEMATICAL ITALIC SMALL BETA;3GAMMA;3DELTA;3EPSILON;3ZETA;3ETA;3THETA;3IOTA;3KAPPA",
   "1d706;0MATHEMATICAL ITALIC SMALL LAMDA;3MU;3NU;3XI;3OMICRON;3PI;3RHO;3FINAL SIGMA;3SIGMA",
   "1d70f;0MATHEMATICAL ITALIC SMALL TAU;3UPSILON;3PHI;3CHI;3PSI;3OMEGA;2PARTIAL DIFFERENTIAL",
   "1d716;0MATHEMATICAL ITALIC EPSILON SYMBOL;2THETA SYMBOL;2KAPPA SYMBOL;2PHI SYMBOL",
   "1d71a;0MATHEMATICAL ITALIC RHO SYMBOL;2PI SYMBOL;1BOLD ITALIC CAPITAL ALPHA;4BETA;4GAMMA",
   "1d71f;0MATHEMATICAL BOLD ITALIC CAPITAL DELTA;4EPSILON;4ZETA;4ETA;4THETA;4IOTA;4KAPPA;4LAMDA",
   "1d727;0MATHEMATICAL BOLD ITALIC CAPITAL MU;4NU;4XI;4OMICRON;4PI;4RHO;4THETA SYMBOL;4SIGMA",
   "1d72f;0MATHEMATICAL BOLD ITALIC CAPITAL TAU;4UPSILON;4PHI;4CHI;4PSI;4OMEGA;3NABLA",
   "1d736;0MATHEMATICAL BOLD ITALIC SMALL ALPHA;4BETA;4GAMMA;4DELTA;4EPSILON;4ZETA;4ETA;4THETA",
   "1d73e;0MATHEMATICAL BOLD ITALIC SMALL IOTA;4KAPPA;4LAMDA;4MU;4NU;4XI;4OMICRON;4PI;4RHO",
   "1d747;0MATHEMATICAL BOLD ITALIC SMALL FINAL SIGMA;4SIGMA;4TAU;4UPSILON;4PHI;4CHI;4PSI;4OMEGA",
   "1d74f;0MATHEMATICAL BOLD ITALIC PARTIAL DIFFERENTIAL;3EPSILON SYMBOL;3THETA SYMBOL",
   "1d752;0MATHEMATICAL BOLD ITALIC KAPPA SYMBOL;3PHI SYMBOL;3RHO SYMBOL;3PI SYMBOL",
   "1d756;0MATHEMATICAL SANS-SERIF BOLD CAPITAL ALPHA;4BETA;4GAMMA;4DELTA;4EPSILON;4ZETA;4ETA",
   "1d75d;0MATHEMATICAL SANS-SERIF BOLD CAPITAL THETA;4IOTA;4KAPPA;4LAMDA;4MU;4NU;4XI;4OMICRON",
   "1d765;0MATHEMATICAL SANS-SERIF BOLD CAPITAL PI;4RHO;4THETA SYMBOL;4SIGMA;4TAU;4UPSILON;4PHI",
   "1d76c;0MATHEMATICAL SANS-SERIF BOLD CAPITAL CHI;4PSI;4OMEGA;3NABLA;3SMALL ALPHA;4BETA;4GAMMA",
   "1d773;0MATHEMATICAL SANS-SERIF BOLD SMALL DELTA;4EPSILON;4ZETA;4ETA;4THETA;4IOTA;4KAPPA",
   "1d77a;0MATHEMATICAL SANS-SERIF BOLD SMALL LAMDA;4MU;4NU;4XI;4OMICRON;4PI;4RHO;4FINAL SIGMA",
   "1d782;0MATHEMATICAL SANS-SERIF BOLD SMALL SIGMA;4TAU;4UPSILON;4PHI;4CHI;4PSI;4OMEGA",
   "1d789;0MATHEMATICAL SANS-SERIF BOLD PARTIAL DIFFERENTIAL;3EPSILON SYMBOL;3THETA SYMBOL",
   "1d78c;0MATHEMATICAL SANS-SERIF BOLD KAPPA SYMBOL;3PHI SYMBOL;3RHO SYMBOL;3PI SYMBOL",
   "1d790;0MATHEMATICAL SANS-SERIF BOLD ITALIC CAPITAL ALPHA;5BETA;5GAMMA;5DELTA;5EPSILON;5ZETA",
   "1d796;0MATHEMATICAL SANS-SERIF BOLD ITALIC CAPITAL ETA;5THETA;5IOTA;5KAPPA;5LAMDA;5MU;5NU",
   "1d79d;0MATHEMATICAL SANS-SERIF BOLD ITALIC CAPITAL XI;5OMICRON;5PI;5RHO;5THETA SYMBOL;5SIGMA",
   "1d7a3;0MATHEMATICAL SANS-SERIF BOLD ITALIC CAPITAL TAU;5UPSILON;5PHI;5CHI;5PSI;5OMEGA;4NABLA",
   "1d7aa;0MATHEMATICAL SANS-SERIF BOLD ITALIC SMALL ALPHA;5BETA;5GAMMA;5DELTA;5EPSILON;5ZETA",
   "1d7b0;0MATHEMATICAL SANS-SERIF BOLD ITALIC SMALL ETA;5THETA;5IOTA;5KAPPA;5LAMDA;5MU;5NU;5XI",
   "1d7b8;0MATHEMATICAL SANS-SERIF BOLD ITALIC SMALL OMICRON;5PI;5RHO;5FINAL SIGMA;5SIGMA;5TAU",
   "1d7be;0MATHEMATICAL SANS-SERIF BOLD ITALIC SMALL UPSILON;5PHI;5CHI;5PSI;5OMEGA",
   "1d7c3;0MATHEMATICAL SANS-SERIF BOLD ITALIC PARTIAL DIFFERENTIAL;4EPSILON SYMBOL",
   "1d7c5;0MATHEMATICAL SANS-SERIF BOLD ITALIC THETA SYMBOL;4KAPPA SYMBOL;4PHI SYMBOL",
   "1d7c8;0MATHEMATICAL SANS-SERIF BOLD ITALIC RHO SYMBOL;4PI SYMBOL;1BOLD CAPITAL DIGAMMA",
   "1d7cb;0MATHEMATICAL BOLD SMALL DIGAMMA",
   "1d7ce;0MATHEMATICAL BOLD DIGIT ZERO;3ONE;3TWO;3THREE;3FOUR;3FIVE;3SIX;3SEVEN;3EIGHT;3NINE",
   "1d7d8;0MATHEMATICAL DOUBLE-STRUCK DIGIT ZERO;3ONE;3TWO;3THREE;3FOUR;3FIVE;3SIX;3SEVEN;3EIGHT",
   "1d7e1;0MATHEMATICAL DOUBLE-STRUCK DIGIT NINE;1SANS-SERIF DIGIT ZERO;3ONE;3TWO;3THREE;3FOUR",
   "1d7e7;0MATHEMATICAL SANS-SERIF DIGIT FIVE;3SIX;3SEVEN;3EIGHT;3NINE;2BOLD DIGIT ZERO;4ONE",
   "1d7ee;0MATHEMATICAL SANS-SERIF BOLD DIGIT TWO;4THREE;4FOUR;4FIVE;4SIX;4SEVEN;4EIGHT;4NINE",
   "1d7f6;0MATHEMATICAL MONOSPACE DIGIT ZERO;3ONE;3TWO;3THREE;3FOUR;3FIVE;3SIX;3SEVEN;3EIGHT",
   "1d7ff;0MATHEMATICAL MONOSPACE DIGIT NINE",
   "1f300;0CYCLONE;0FOGGY;0CLOSED UMBRELLA;0NIGHT WITH STARS;0SUNRISE OVER MOUNTAINS;1",
   "1f306;0CITYSCAPE AT DUSK;0SUNSET OVER BUILDINGS;0RAINBOW;0BRIDGE AT NIGHT;0WATER WAVE",
   "1f30b;0VOLCANO;0MILKY WAY;0EARTH GLOBE EUROPE-AFRICA;2AMERICAS;2ASIA-AUSTRALIA",
   "1f310;0GLOBE WITH MERIDIANS;0NEW MOON SYMBOL;0WAXING CRESCENT MOON SYMBOL",
   "1f313;0FIRST QUARTER MOON SYMBOL;0WAXING GIBBOUS MOON SYMBOL;0FULL MOON SYMBOL",
   "1f316;0WANING GIBBOUS MOON SYMBOL;0LAST QUARTER MOON SYMBOL;0WANING CRESCENT MOON SYMBOL",
   "1f319;0CRESCENT MOON;0NEW MOON WITH FACE;0FIRST QUARTER MOON WITH FACE",
   "1f31c;0LAST QUARTER MOON WITH FACE;0FULL MOON WITH FACE;0SUN WITH FACE;0GLOWING STAR",
   "1f320;0SHOOTING STAR;0THERMOMETER;0BLACK DROPLET;0WHITE SUN;2WITH SMALL CLOUD;2BEHIND CLOUD",
   "1f326;0WHITE SUN BEHIND CLOUD WITH RAIN;0CLOUD WITH RAIN;2SNOW;2LIGHTNING;2TORNADO;0FOG",
   "1f32c;0WIND BLOWING FACE;0HOT DOG;0TACO;0BURRITO;0CHESTNUT;0SEEDLING;0EVERGREEN TREE",
   "1f333;0DECIDUOUS TREE;0PALM TREE;0CACTUS;0HOT PEPPER;0TULIP;0CHERRY BLOSSOM;0ROSE;0HIBISCUS",
   "1f33b;0SUNFLOWER;0BLOSSOM;0EAR OF MAIZE;2RICE;0HERB;0FOUR LEAF CLOVER;0MAPLE LEAF",
   "1f342;0FALLEN LEAF;0LEAF FLUTTERING IN WIND;0MUSHROOM;0TOMATO;0AUBERGINE;0GRAPES;0MELON",
   "1f349;0WATERMELON;0TANGERINE;0LEMON;0BANANA;0PINEAPPLE;0RED APPLE;0GREEN APPLE;0PEAR;0PEACH",
   "1f352;0CHERRIES;0STRAWBERRY;0HAMBURGER;0SLICE OF PIZZA;0MEAT ON BONE;0POULTRY LEG",
   "1f358;0RICE CRACKER;1BALL;0COOKED RICE;0CURRY AND RICE;0STEAMING BOWL;0SPAGHETTI;0BREAD",
   "1f35f;0FRENCH FRIES;0ROASTED SWEET POTATO;0DANGO;0ODEN;0SUSHI;0FRIED SHRIMP",
   "1f365;0FISH CAKE WITH SWIRL DESIGN;0SOFT ICE CREAM;0SHAVED ICE;0ICE CREAM;0DOUGHNUT;0COOKIE",
   "1f36b;0CHOCOLATE BAR;0CANDY;0LOLLIPOP;0CUSTARD;0HONEY POT;0SHORTCAKE;0BENTO BOX;0POT OF FOOD",
   "1f373;0COOKING;0FORK AND KNIFE;0TEACUP WITHOUT HANDLE;0SAKE BOTTLE AND CUP;0WINE GLASS",
   "1f378;0COCKTAIL GLASS;0TROPICAL DRINK;0BEER MUG;0CLINKING BEER MUGS;0BABY BOTTLE",
   "1f37d;0FORK AND KNIFE WITH PLATE;0BOTTLE WITH POPPING CORK;0POPCORN;0RIBBON;0WRAPPED PRESENT",
   "1f382;0BIRTHDAY CAKE;0JACK-O-LANTERN;0CHRISTMAS TREE;0FATHER CHRISTMAS;0FIREWORKS",
   "1f387;0FIREWORK SPARKLER;0BALLOON;0PARTY POPPER;0CONFETTI BALL;0TANABATA TREE;0CROSSED FLAGS",
   "1f38d;0PINE DECORATION;0JAPANESE DOLLS;0CARP STREAMER;0WIND CHIME;0MOON VIEWING CEREMONY",
   "1f392;0SCHOOL SATCHEL;0GRADUATION CAP;0HEART WITH TIP ON THE LEFT;0BOUQUET OF FLOWERS",
   "1f396;0MILITARY MEDAL;0REMINDER RIBBON;0MUSICAL KEYBOARD WITH JACKS;0STUDIO MICROPHONE",
   "1f39a;0LEVEL SLIDER;0CONTROL KNOBS;0BEAMED ASCENDING MUSICAL NOTES;1DESCENDING MUSICAL NOTES",
   "1f39e;0FILM FRAMES;0ADMISSION TICKETS;0CAROUSEL HORSE;0FERRIS WHEEL;0ROLLER COASTER",
   "1f3a3;0FISHING POLE AND FISH;0MICROPHONE;0MOVIE CAMERA;0CINEMA;0HEADPHONE;0ARTIST PALETTE",
   "1f3a9;0TOP HAT;0CIRCUS TENT;0TICKET;0CLAPPER BOARD;0PERFORMING ARTS;0VIDEO GAME;0DIRECT HIT",
   "1f3b0;0SLOT MACHINE;0BILLIARDS;0GAME DIE;0BOWLING;0FLOWER PLAYING CARDS;0MUSICAL NOTE",
   "1f3b6;0MULTIPLE MUSICAL NOTES;0SAXOPHONE;0GUITAR;0MUSICAL KEYBOARD;0TRUMPET;0VIOLIN",
   "1f3bc;0MUSICAL SCORE;0RUNNING SHIRT WITH SASH;0TENNIS RACQUET AND BALL;0SKI AND SKI BOOT",
   "1f3c0;0BASKETBALL AND HOOP;0CHEQUERED FLAG;0SNOWBOARDER;0RUNNER;0SURFER;0SPORTS MEDAL",
   "1f3c6;0TROPHY;0HORSE RACING;0AMERICAN FOOTBALL;0RUGBY FOOTBALL;0SWIMMER;0WEIGHT LIFTER",
   "1f3cc;0GOLFER;0RACING MOTORCYCLE;1CAR;0CRICKET BAT AND BALL;0VOLLEYBALL",
   "1f3d1;0FIELD HOCKEY STICK AND BALL;0ICE HOCKEY STICK AND PUCK;0TABLE TENNIS PADDLE AND BALL",
   "1f3d4;0SNOW CAPPED MOUNTAIN;0CAMPING;0BEACH WITH UMBRELLA;0BUILDING CONSTRUCTION",
   "1f3d8;0HOUSE BUILDINGS;0CITYSCAPE;0DERELICT HOUSE BUILDING;0CLASSICAL BUILDING;0DESERT",
   "1f3dd;0DESERT ISLAND;0NATIONAL PARK;0STADIUM;0HOUSE BUILDING;1WITH GARDEN;0OFFICE BUILDING",
   "1f3e3;0JAPANESE POST OFFICE;0EUROPEAN POST OFFICE;0HOSPITAL;0BANK;0AUTOMATED TELLER MACHINE",
   "1f3e8;0HOTEL;0LOVE HOTEL;0CONVENIENCE STORE;0SCHOOL;0DEPARTMENT STORE;0FACTORY",
   "1f3ee;0IZAKAYA LANTERN;0JAPANESE CASTLE;0EUROPEAN CASTLE;0WHITE PENNANT;0BLACK PENNANT",
   "1f3f3;0WAVING WHITE FLAG;1BLACK FLAG;0ROSETTE;0BLACK ROSETTE;0LABEL",
   "1f3f8;0BADMINTON RACQUET AND SHUTTLECOCK;0BOW AND ARROW;0AMPHORA",
   "1f3fb;0EMOJI MODIFIER FITZPATRICK TYPE-1-2;3TYPE-3;3TYPE-4;3TYPE-5;3TYPE-6;0RAT;0MOUSE;0OX",
   "1f403;0WATER BUFFALO;0COW;0TIGER;0LEOPARD;0RABBIT;0CAT;0DRAGON;0CROCODILE;0WHALE;0SNAIL",
   "1f40d;0SNAKE;0HORSE;0RAM;0GOAT;0SHEEP;0MONKEY;0ROOSTER;0CHICKEN;0DOG;0PIG;0BOAR;0ELEPHANT",
   "1f419;0OCTOPUS;0SPIRAL SHELL;0BUG;0ANT;0HONEYBEE;0LADY BEETLE;0FISH;0TROPICAL FISH;0BLOWFISH",
   "1f422;0TURTLE;0HATCHING CHICK;0BABY CHICK;0FRONT-FACING BABY CHICK;0BIRD;0PENGUIN;0KOALA",
   "1f429;0POODLE;0DROMEDARY CAMEL;0BACTRIAN CAMEL;0DOLPHIN;0MOUSE FACE;0COW FACE;0TIGER FACE",
   "1f430;0RABBIT FACE;0CAT FACE;0DRAGON FACE;0SPOUTING WHALE;0HORSE FACE;0MONKEY FACE;0DOG FACE",
   "1f437;0PIG FACE;0FROG FACE;0HAMSTER FACE;0WOLF FACE;0BEAR FACE;0PANDA FACE;0PIG NOSE",
   "1f43e;0PAW PRINTS;0CHIPMUNK;0EYES;0EYE;0EAR;0NOSE;0MOUTH;0TONGUE",
   "1f446;0WHITE UP POINTING BACKHAND INDEX;1DOWN POINTING BACKHAND INDEX",
   "1f448;0WHITE LEFT POINTING BACKHAND INDEX;1RIGHT POINTING BACKHAND INDEX;0FISTED HAND SIGN",
   "1f44b;0WAVING HAND SIGN;0OK HAND SIGN;0THUMBS UP SIGN;1DOWN SIGN;0CLAPPING HANDS SIGN",
   "1f450;0OPEN HANDS SIGN;0CROWN;0WOMANS HAT;0EYEGLASSES;0NECKTIE;0T-SHIRT;0JEANS;0DRESS",
   "1f458;0KIMONO;0BIKINI;0WOMANS CLOTHES;0PURSE;0HANDBAG;0POUCH;0MANS SHOE;0ATHLETIC SHOE",
   "1f460;0HIGH-HEELED SHOE;0WOMANS SANDAL;1BOOTS;0FOOTPRINTS;0BUST IN SILHOUETTE",
   "1f465;0BUSTS IN SILHOUETTE;0BOY;0GIRL;0MAN;0WOMAN;0FAMILY;0MAN AND WOMAN HOLDING HANDS",
   "1f46c;0TWO MEN HOLDING HANDS;1WOMEN HOLDING HANDS;0POLICE OFFICER;0WOMAN WITH BUNNY EARS",
   "1f470;0BRIDE WITH VEIL;0PERSON WITH BLOND HAIR;0MAN WITH GUA PI MAO;2TURBAN;0OLDER MAN",
   "1f475;0OLDER WOMAN;0BABY;0CONSTRUCTION WORKER;0PRINCESS;0JAPANESE OGRE;1GOBLIN;0GHOST",
   "1f47c;0BABY ANGEL;0EXTRATERRESTRIAL ALIEN;0ALIEN MONSTER;0IMP;0SKULL",
   "1f481;0INFORMATION DESK PERSON;0GUARDSMAN;0DANCER;0LIPSTICK;0NAIL POLISH;0FACE MASSAGE",
   "1f487;0HAIRCUT;0BARBER POLE;0SYRINGE;0PILL;0KISS MARK;0LOVE LETTER;0RING;0GEM STONE;0KISS",
   "1f490;0BOUQUET;0COUPLE WITH HEART;0WEDDING;0BEATING HEART;0BROKEN HEART;0TWO HEARTS",
   "1f496;0SPARKLING HEART;0GROWING HEART;0HEART WITH ARROW;0BLUE HEART;0GREEN HEART",
   "1f49b;0YELLOW HEART;0PURPLE HEART;0HEART WITH RIBBON;0REVOLVING HEARTS;0HEART DECORATION",
   "1f4a0;0DIAMOND SHAPE WITH A DOT INSIDE;0ELECTRIC LIGHT BULB;0ANGER SYMBOL;0BOMB",
   "1f4a4;0SLEEPING SYMBOL;0COLLISION SYMBOL;0SPLASHING SWEAT SYMBOL;0DROPLET;0DASH SYMBOL",
   "1f4a9;0PILE OF POO;0FLEXED BICEPS;0DIZZY SYMBOL;0SPEECH BALLOON;0THOUGHT BALLOON",
   "1f4ae;0WHITE FLOWER;0HUNDRED POINTS SYMBOL;0MONEY BAG;0CURRENCY EXCHANGE;0HEAVY DOLLAR SIGN",
   "1f4b3;0CREDIT CARD;0BANKNOTE WITH YEN SIGN;2DOLLAR SIGN;2EURO SIGN;2POUND SIGN",
   "1f4b8;0MONEY WITH WINGS;0CHART WITH UPWARDS TREND AND YEN SIGN;0SEAT;0PERSONAL COMPUTER",
   "1f4bc;0BRIEFCASE;0MINIDISC;0FLOPPY DISK;0OPTICAL DISC;0DVD;0FILE FOLDER;0OPEN FILE FOLDER",
   "1f4c3;0PAGE WITH CURL;1FACING UP;0CALENDAR;0TEAR-OFF CALENDAR;0CARD INDEX",
   "1f4c8;0CHART WITH UPWARDS TREND;2DOWNWARDS TREND;0BAR CHART;0CLIPBOARD;0PUSHPIN",
   "1f4cd;0ROUND PUSHPIN;0PAPERCLIP;0STRAIGHT RULER;0TRIANGULAR RULER;0BOOKMARK TABS;0LEDGER",
   "1f4d3;0NOTEBOOK;1WITH DECORATIVE COVER;0CLOSED BOOK;0OPEN BOOK;0GREEN BOOK;0BLUE BOOK",
   "1f4d9;0ORANGE BOOK;0BOOKS;0NAME BADGE;0SCROLL;0MEMO;0TELEPHONE RECEIVER;0PAGER;0FAX MACHINE",
   "1f4e1;0SATELLITE ANTENNA;0PUBLIC ADDRESS LOUDSPEAKER;0CHEERING MEGAPHONE;0OUTBOX TRAY",
   "1f4e5;0INBOX TRAY;0PACKAGE;0E-MAIL SYMBOL;0INCOMING ENVELOPE",
   "1f4e9;0ENVELOPE WITH DOWNWARDS ARROW ABOVE;0CLOSED MAILBOX WITH LOWERED FLAG;3RAISED FLAG",
   "1f4ec;0OPEN MAILBOX WITH RAISED FLAG;3LOWERED FLAG;0POSTBOX;0POSTAL HORN;0NEWSPAPER",
   "1f4f1;0MOBILE PHONE;2WITH RIGHTWARDS ARROW AT LEFT;0VIBRATION MODE;0MOBILE PHONE OFF",
   "1f4f5;0NO MOBILE PHONES;0ANTENNA WITH BARS;0CAMERA;1WITH FLASH;0VIDEO CAMERA;0TELEVISION",
   "1f4fb;0RADIO;0VIDEOCASSETTE;0FILM PROJECTOR;0PORTABLE STEREO;0PRAYER BEADS",
   "1f500;0TWISTED RIGHTWARDS ARROWS;0CLOCKWISE RIGHTWARDS AND LEFTWARDS OPEN CIRCLE ARROWS",
   "1f502;0CLOCKWISE RIGHTWARDS AND LEFTWARDS OPEN CIRCLE ARROWS WITH CIRCLED ONE OVERLAY",
   "1f503;0CLOCKWISE DOWNWARDS AND UPWARDS OPEN CIRCLE ARROWS",
   "1f504;0ANTICLOCKWISE DOWNWARDS AND UPWARDS OPEN CIRCLE ARROWS;0LOW BRIGHTNESS SYMBOL",
   "1f506;0HIGH BRIGHTNESS SYMBOL;0SPEAKER WITH CANCELLATION STROKE;1;1WITH ONE SOUND WAVE",
   "1f50a;0SPEAKER WITH THREE SOUND WAVES;0BATTERY;0ELECTRIC PLUG",
   "1f50d;0LEFT-POINTING MAGNIFYING GLASS;0RIGHT-POINTING MAGNIFYING GLASS;0LOCK WITH INK PEN",
   "1f510;0CLOSED LOCK WITH KEY;0KEY;0LOCK;0OPEN LOCK;0BELL;1WITH CANCELLATION STROKE;0BOOKMARK",
   "1f517;0LINK SYMBOL;0RADIO BUTTON;0BACK WITH LEFTWARDS ARROW ABOVE",
   "1f51a;0END WITH LEFTWARDS ARROW ABOVE;0ON WITH EXCLAMATION MARK WITH LEFT RIGHT ARROW ABOVE",
   "1f51c;0SOON WITH RIGHTWARDS ARROW ABOVE;0TOP WITH UPWARDS ARROW ABOVE",
   "1f51e;0NO ONE UNDER EIGHTEEN SYMBOL;0KEYCAP TEN;0INPUT SYMBOL FOR LATIN CAPITAL LETTERS",
   "1f521;0INPUT SYMBOL FOR LATIN SMALL LETTERS;3NUMBERS;3SYMBOLS;3LATIN LETTERS;0FIRE",
   "1f526;0ELECTRIC TORCH;0WRENCH;0HAMMER;0NUT AND BOLT;0HOCHO;0PISTOL;0MICROSCOPE;0TELESCOPE",
   "1f52e;0CRYSTAL BALL;0SIX POINTED STAR WITH MIDDLE DOT;0JAPANESE SYMBOL FOR BEGINNER",
   "1f531;0TRIDENT EMBLEM;0BLACK SQUARE BUTTON;0WHITE SQUARE BUTTON;0LARGE RED CIRCLE",
   "1f535;0LARGE BLUE CIRCLE;1ORANGE DIAMOND;1BLUE DIAMOND;0SMALL ORANGE DIAMOND;1BLUE DIAMOND",
   "1f53a;0UP-POINTING RED TRIANGLE;0DOWN-POINTING RED TRIANGLE;0UP-POINTING SMALL RED TRIANGLE",
   "1f53d;0DOWN-POINTING SMALL RED TRIANGLE;0LOWER RIGHT SHADOWED WHITE CIRCLE",
   "1f53f;0UPPER RIGHT SHADOWED WHITE CIRCLE;0CIRCLED CROSS POMMEE",
   "1f541;0CROSS POMMEE WITH HALF-CIRCLE BELOW;2;0NOTCHED LEFT SEMICIRCLE WITH THREE DOTS",
   "1f544;0NOTCHED RIGHT SEMICIRCLE WITH THREE DOTS;0SYMBOL FOR MARKS CHAPTER;0WHITE LATIN CROSS",
   "1f547;0HEAVY LATIN CROSS;0CELTIC CROSS;0OM SYMBOL;0DOVE OF PEACE;0KAABA;0MOSQUE;0SYNAGOGUE",
   "1f54e;0MENORAH WITH NINE BRANCHES;0BOWL OF HYGIEIA;0CLOCK FACE ONE OCLOCK;2TWO OCLOCK",
   "1f552;0CLOCK FACE THREE OCLOCK;2FOUR OCLOCK;2FIVE OCLOCK;2SIX OCLOCK;2SEVEN OCLOCK",
   "1f557;0CLOCK FACE EIGHT OCLOCK;2NINE OCLOCK;2TEN OCLOCK;2ELEVEN OCLOCK;2TWELVE OCLOCK",
   "1f55c;0CLOCK FACE ONE-THIRTY;2TWO-THIRTY;2THREE-THIRTY;2FOUR-THIRTY;2FIVE-THIRTY;2SIX-THIRTY",
   "1f562;0CLOCK FACE SEVEN-THIRTY;2EIGHT-THIRTY;2NINE-THIRTY;2TEN-THIRTY;2ELEVEN-THIRTY",
   "1f567;0CLOCK FACE TWELVE-THIRTY;0RIGHT SPEAKER;2WITH ONE SOUND WAVE;3THREE SOUND WAVES",
   "1f56b;0BULLHORN;1WITH SOUND WAVES;0RINGING BELL;0BOOK;0CANDLE;0MANTELPIECE CLOCK",
   "1f571;0BLACK SKULL AND CROSSBONES;0NO PIRACY;0HOLE;0MAN IN BUSINESS SUIT LEVITATING",
   "1f575;0SLEUTH OR SPY;0DARK SUNGLASSES;0SPIDER;1WEB;0JOYSTICK;0MAN DANCING",
   "1f57b;0LEFT HAND TELEPHONE RECEIVER;0TELEPHONE RECEIVER WITH PAGE",
   "1f57d;0RIGHT HAND TELEPHONE RECEIVER;0WHITE TOUCHTONE TELEPHONE;0BLACK TOUCHTONE TELEPHONE",
   "1f580;0TELEPHONE ON TOP OF MODEM;0CLAMSHELL MOBILE PHONE;0BACK OF ENVELOPE;0STAMPED ENVELOPE",
   "1f584;0ENVELOPE WITH LIGHTNING;0FLYING ENVELOPE;0PEN OVER STAMPED ENVELOPE",
   "1f587;0LINKED PAPERCLIPS;0BLACK PUSHPIN;0LOWER LEFT PENCIL;2BALLPOINT PEN;2FOUNTAIN PEN",
   "1f58c;0LOWER LEFT PAINTBRUSH;2CRAYON;0LEFT WRITING HAND;0TURNED OK HAND SIGN",
   "1f590;0RAISED HAND WITH FINGERS SPLAYED;0REVERSED RAISED HAND WITH FINGERS SPLAYED",
   "1f592;0REVERSED THUMBS UP SIGN;2DOWN SIGN;1VICTORY HAND;1HAND WITH MIDDLE FINGER EXTENDED",
   "1f596;0RAISED HAND WITH PART BETWEEN MIDDLE AND RING FINGERS",
   "1f597;0WHITE DOWN POINTING LEFT HAND INDEX;0SIDEWAYS WHITE LEFT POINTING INDEX",
   "1f599;0SIDEWAYS WHITE RIGHT POINTING INDEX;1BLACK LEFT POINTING INDEX;2RIGHT POINTING INDEX",
   "1f59c;0BLACK LEFT POINTING BACKHAND INDEX;1RIGHT POINTING BACKHAND INDEX",
   "1f59e;0SIDEWAYS WHITE UP POINTING INDEX;2DOWN POINTING INDEX;1BLACK UP POINTING INDEX",
   "1f5a1;0SIDEWAYS BLACK DOWN POINTING INDEX;0BLACK UP POINTING BACKHAND INDEX",
   "1f5a3;0BLACK DOWN POINTING BACKHAND INDEX;1HEART;0DESKTOP COMPUTER;0KEYBOARD AND MOUSE",
   "1f5a7;0THREE NETWORKED COMPUTERS;0PRINTER;0POCKET CALCULATOR;0BLACK HARD SHELL FLOPPY DISK",
   "1f5ab;0WHITE HARD SHELL FLOPPY DISK;0SOFT SHELL FLOPPY DISK;0TAPE CARTRIDGE;0WIRED KEYBOARD",
   "1f5af;0ONE BUTTON MOUSE;0TWO BUTTON MOUSE;0THREE BUTTON MOUSE;0TRACKBALL",
   "1f5b3;0OLD PERSONAL COMPUTER;0HARD DISK;0SCREEN;0PRINTER ICON;0FAX ICON;0OPTICAL DISC ICON",
   "1f5b9;0DOCUMENT WITH TEXT;3AND PICTURE;2PICTURE;0FRAME WITH PICTURE;2TILES;2AN X",
   "1f5bf;0BLACK FOLDER;0FOLDER;0OPEN FOLDER;0CARD INDEX DIVIDERS;1FILE BOX;0FILE CABINET",
   "1f5c5;0EMPTY NOTE;2PAGE;2PAD;0NOTE;1PAGE;1PAD;0EMPTY DOCUMENT;1PAGE;1PAGES;0DOCUMENT;0PAGE",
   "1f5d0;0PAGES;0WASTEBASKET;0SPIRAL NOTE PAD;1CALENDAR PAD;0DESKTOP WINDOW;0MINIMIZE;0MAXIMIZE",
   "1f5d7;0OVERLAP;0CLOCKWISE RIGHT AND LEFT SEMICIRCLE ARROWS;0CANCELLATION X",
   "1f5da;0INCREASE FONT SIZE SYMBOL;0DECREASE FONT SIZE SYMBOL;0COMPRESSION;0OLD KEY",
   "1f5de;0ROLLED-UP NEWSPAPER;0PAGE WITH CIRCLED TEXT;0STOCK CHART;0DAGGER KNIFE;0LIPS",
   "1f5e3;0SPEAKING HEAD IN SILHOUETTE;0THREE RAYS ABOVE;2BELOW;2LEFT;2RIGHT;0LEFT SPEECH BUBBLE",
   "1f5e9;0RIGHT SPEECH BUBBLE;0TWO SPEECH BUBBLES;0THREE SPEECH BUBBLES;0LEFT THOUGHT BUBBLE",
   "1f5ed;0RIGHT THOUGHT BUBBLE;0LEFT ANGER BUBBLE;0RIGHT ANGER BUBBLE;0MOOD BUBBLE",
   "1f5f1;0LIGHTNING MOOD BUBBLE;2;0BALLOT BOX WITH BALLOT;1SCRIPT X;1BOX WITH SCRIPT X",
   "1f5f6;0BALLOT BOLD SCRIPT X;1BOX WITH BOLD SCRIPT X;0LIGHT CHECK MARK",
   "1f5f9;0BALLOT BOX WITH BOLD CHECK;0WORLD MAP;0MOUNT FUJI;0TOKYO TOWER;0STATUE OF LIBERTY",
   "1f5fe;0SILHOUETTE OF JAPAN;0MOYAI;0GRINNING FACE;2WITH SMILING EYES;0FACE WITH TEARS OF JOY",
   "1f603;0SMILING FACE WITH OPEN MOUTH;5AND SMILING EYES;6COLD SWEAT;6TIGHTLY-CLOSED EYES;3HALO",
   "1f608;0SMILING FACE WITH HORNS;0WINKING FACE;0SMILING FACE WITH SMILING EYES",
   "1f60b;0FACE SAVOURING DELICIOUS FOOD;0RELIEVED FACE;0SMILING FACE WITH HEART-SHAPED EYES",
   "1f60e;0SMILING FACE WITH SUNGLASSES;0SMIRKING FACE;0NEUTRAL FACE;0EXPRESSIONLESS FACE",
   "1f612;0UNAMUSED FACE;0FACE WITH COLD SWEAT;0PENSIVE FACE;0CONFUSED FACE;0CONFOUNDED FACE",
   "1f617;0KISSING FACE;0FACE THROWING A KISS;0KISSING FACE WITH SMILING EYES;3CLOSED EYES",
   "1f61b;0FACE WITH STUCK-OUT TONGUE;4AND WINKING EYE;5TIGHTLY-CLOSED EYES;0DISAPPOINTED FACE",
   "1f61f;0WORRIED FACE;0ANGRY FACE;0POUTING FACE;0CRYING FACE;0PERSEVERING FACE",
   "1f624;0FACE WITH LOOK OF TRIUMPH;0DISAPPOINTED BUT RELIEVED FACE",
   "1f626;0FROWNING FACE WITH OPEN MOUTH;0ANGUISHED FACE;0FEARFUL FACE;0WEARY FACE;0SLEEPY FACE",
   "1f62b;0TIRED FACE;0GRIMACING FACE;0LOUDLY CRYING FACE;0FACE WITH OPEN MOUTH;0HUSHED FACE",
   "1f630;0FACE WITH OPEN MOUTH AND COLD SWEAT;1SCREAMING IN FEAR;0ASTONISHED FACE;0FLUSHED FACE",
   "1f634;0SLEEPING FACE;0DIZZY FACE;0FACE WITHOUT MOUTH;1WITH MEDICAL MASK",
   "1f638;0GRINNING CAT FACE WITH SMILING EYES;0CAT FACE WITH TEARS OF JOY",
   "1f63a;0SMILING CAT FACE WITH OPEN MOUTH;4HEART-SHAPED EYES;0CAT FACE WITH WRY SMILE",
   "1f63d;0KISSING CAT FACE WITH CLOSED EYES;0POUTING CAT FACE;0CRYING CAT FACE;0WEARY CAT FACE",
   "1f641;0SLIGHTLY FROWNING FACE;1SMILING FACE;0UPSIDE-DOWN FACE;0FACE WITH ROLLING EYES",
   "1f645;0FACE WITH NO GOOD GESTURE;2OK GESTURE;0PERSON BOWING DEEPLY;0SEE-NO-EVIL MONKEY",
   "1f649;0HEAR-NO-EVIL MONKEY;0SPEAK-NO-EVIL MONKEY;0HAPPY PERSON RAISING ONE HAND",
   "1f64c;0PERSON RAISING BOTH HANDS IN CELEBRATION;1FROWNING;1WITH POUTING FACE;2FOLDED HANDS",
   "1f650;0NORTH WEST POINTING LEAF;0SOUTH WEST POINTING LEAF;0NORTH EAST POINTING LEAF",
   "1f653;0SOUTH EAST POINTING LEAF;0TURNED NORTH WEST POINTING LEAF;1SOUTH WEST POINTING LEAF",
   "1f656;0TURNED NORTH EAST POINTING LEAF;1SOUTH EAST POINTING LEAF",
   "1f658;0NORTH WEST POINTING VINE LEAF;0SOUTH WEST POINTING VINE LEAF",
   "1f65a;0NORTH EAST POINTING VINE LEAF;0SOUTH EAST POINTING VINE LEAF",
   "1f65c;0HEAVY NORTH WEST POINTING VINE LEAF;1SOUTH WEST POINTING VINE LEAF",
   "1f65e;0HEAVY NORTH EAST POINTING VINE LEAF;1SOUTH EAST POINTING VINE LEAF",
   "1f660;0NORTH WEST POINTING BUD;0SOUTH WEST POINTING BUD;0NORTH EAST POINTING BUD",
   "1f663;0SOUTH EAST POINTING BUD;0HEAVY NORTH WEST POINTING BUD;1SOUTH WEST POINTING BUD",
   "1f666;0HEAVY NORTH EAST POINTING BUD;1SOUTH EAST POINTING BUD;0HOLLOW QUILT SQUARE ORNAMENT",
   "1f669;0HOLLOW QUILT SQUARE ORNAMENT IN BLACK SQUARE;0SOLID QUILT SQUARE ORNAMENT",
   "1f66b;0SOLID QUILT SQUARE ORNAMENT IN BLACK SQUARE;0LEFTWARDS ROCKET;0UPWARDS ROCKET",
   "1f66e;0RIGHTWARDS ROCKET;0DOWNWARDS ROCKET;0SCRIPT LIGATURE ET ORNAMENT",
   "1f671;0HEAVY SCRIPT LIGATURE ET ORNAMENT;0LIGATURE OPEN ET ORNAMENT",
   "1f673;0HEAVY LIGATURE OPEN ET ORNAMENT;1AMPERSAND ORNAMENT;0SWASH AMPERSAND ORNAMENT",
   "1f676;0SANS-SERIF HEAVY DOUBLE TURNED COMMA QUOTATION MARK ORNAMENT",
   "1f677;0SANS-SERIF HEAVY DOUBLE COMMA QUOTATION MARK ORNAMENT",
   "1f678;0SANS-SERIF HEAVY LOW DOUBLE COMMA QUOTATION MARK ORNAMENT;0HEAVY INTERROBANG ORNAMENT",
   "1f67a;0SANS-SERIF INTERROBANG ORNAMENT;0HEAVY SANS-SERIF INTERROBANG ORNAMENT",
   "1f67c;0VERY HEAVY SOLIDUS;2REVERSE SOLIDUS;0CHECKER BOARD;0REVERSE CHECKER BOARD;0ROCKET",
   "1f681;0HELICOPTER;0STEAM LOCOMOTIVE;0RAILWAY CAR;0HIGH-SPEED TRAIN;2WITH BULLET NOSE;0TRAIN",
   "1f687;0METRO;0LIGHT RAIL;0STATION;0TRAM;1CAR;0BUS;0ONCOMING BUS;0TROLLEYBUS;0BUS STOP",
   "1f690;0MINIBUS;0AMBULANCE;0FIRE ENGINE;0POLICE CAR;0ONCOMING POLICE CAR;0TAXI;0ONCOMING TAXI",
   "1f697;0AUTOMOBILE;0ONCOMING AUTOMOBILE;0RECREATIONAL VEHICLE;0DELIVERY TRUCK",
   "1f69b;0ARTICULATED LORRY;0TRACTOR;0MONORAIL;0MOUNTAIN RAILWAY;0SUSPENSION RAILWAY",
   "1f6a0;0MOUNTAIN CABLEWAY;0AERIAL TRAMWAY;0SHIP;0ROWBOAT;0SPEEDBOAT;0HORIZONTAL TRAFFIC LIGHT",
   "1f6a6;0VERTICAL TRAFFIC LIGHT;0CONSTRUCTION SIGN;0POLICE CARS REVOLVING LIGHT",
   "1f6a9;0TRIANGULAR FLAG ON POST;0DOOR;0NO ENTRY SIGN;0SMOKING SYMBOL;0NO SMOKING SYMBOL",
   "1f6ae;0PUT LITTER IN ITS PLACE SYMBOL;0DO NOT LITTER SYMBOL;0POTABLE WATER SYMBOL",
   "1f6b1;0NON-POTABLE WATER SYMBOL;0BICYCLE;0NO BICYCLES;0BICYCLIST;0MOUNTAIN BICYCLIST",
   "1f6b6;0PEDESTRIAN;0NO PEDESTRIANS;0CHILDREN CROSSING;0MENS SYMBOL;0WOMENS SYMBOL;0RESTROOM",
   "1f6bc;0BABY SYMBOL;0TOILET;0WATER CLOSET;0SHOWER;0BATH;0BATHTUB;0PASSPORT CONTROL;0CUSTOMS",
   "1f6c4;0BAGGAGE CLAIM;0LEFT LUGGAGE;0TRIANGLE WITH ROUNDED CORNERS;0PROHIBITED SIGN",
   "1f6c8;0CIRCLED INFORMATION SOURCE;0BOYS SYMBOL;0GIRLS SYMBOL;0COUCH AND LAMP",
   "1f6cc;0SLEEPING ACCOMMODATION;0SHOPPING BAGS;0BELLHOP BELL;0BED;0PLACE OF WORSHIP",
   "1f6d1;0OCTAGONAL SIGN;0SHOPPING TROLLEY;0STUPA;0PAGODA;0HINDU TEMPLE;0HUT;0ELEVATOR",
   "1f6dd;0PLAYGROUND SLIDE;0WHEEL;0RING BUOY;0HAMMER AND WRENCH;0SHIELD;0OIL DRUM;0MOTORWAY",
   "1f6e4;0RAILWAY TRACK;0MOTOR BOAT;0UP-POINTING MILITARY AIRPLANE;1AIRPLANE;1SMALL AIRPLANE",
   "1f6e9;0SMALL AIRPLANE;0NORTHEAST-POINTING AIRPLANE;0AIRPLANE DEPARTURE;1ARRIVING",
   "1f6f0;0SATELLITE;0ONCOMING FIRE ENGINE;0DIESEL LOCOMOTIVE;0PASSENGER SHIP;0SCOOTER",
   "1f6f5;0MOTOR SCOOTER;0CANOE;0SLED;0FLYING SAUCER;0SKATEBOARD;0AUTO RICKSHAW;0PICKUP TRUCK",
   "1f6fc;0ROLLER SKATE",
   "1f900;0CIRCLED CROSS FORMEE WITH FOUR DOTS;4TWO DOTS;3;0LEFT HALF CIRCLE WITH FOUR DOTS",
   "1f904;0LEFT HALF CIRCLE WITH THREE DOTS;4TWO DOTS;4DOT;3;0DOWNWARD FACING HOOK;2NOTCHED HOOK",
   "1f90a;0DOWNWARD FACING HOOK WITH DOT;2NOTCHED HOOK WITH DOT;0PINCHED FINGERS;0WHITE HEART",
   "1f90e;0BROWN HEART;0PINCHING HAND;0ZIPPER-MOUTH FACE;0MONEY-MOUTH FACE",
   "1f912;0FACE WITH THERMOMETER;0NERD FACE;0THINKING FACE;0FACE WITH HEAD-BANDAGE;0ROBOT FACE",
   "1f917;0HUGGING FACE;0SIGN OF THE HORNS;0CALL ME HAND;0RAISED BACK OF HAND;0LEFT-FACING FIST",
   "1f91c;0RIGHT-FACING FIST;0HANDSHAKE;0HAND WITH INDEX AND MIDDLE FINGERS CROSSED",
   "1f91f;0I LOVE YOU HAND SIGN;0FACE WITH COWBOY HAT;0CLOWN FACE;0NAUSEATED FACE",
   "1f923;0ROLLING ON THE FLOOR LAUGHING;0DROOLING FACE;0LYING FACE;0FACE PALM;0SNEEZING FACE",
   "1f928;0FACE WITH ONE EYEBROW RAISED;0GRINNING FACE WITH STAR EYES",
   "1f92a;0GRINNING FACE WITH ONE LARGE AND ONE SMALL EYE;0FACE WITH FINGER COVERING CLOSED LIPS",
   "1f92c;0SERIOUS FACE WITH SYMBOLS COVERING MOUTH",
   "1f92d;0SMILING FACE WITH SMILING EYES AND HAND COVERING MOUTH;0FACE WITH OPEN MOUTH VOMITING",
   "1f92f;0SHOCKED FACE WITH EXPLODING HEAD;0PREGNANT WOMAN;0BREAST-FEEDING;0PALMS UP TOGETHER",
   "1f933;0SELFIE;0PRINCE;0MAN IN TUXEDO;0MOTHER CHRISTMAS;0SHRUG;0PERSON DOING CARTWHEEL",
   "1f939;0JUGGLING;0FENCER;0MODERN PENTATHLON;0WRESTLERS;0WATER POLO;0HANDBALL;0DIVING MASK",
   "1f940;0WILTED FLOWER;0DRUM WITH DRUMSTICKS;0CLINKING GLASSES;0TUMBLER GLASS;0SPOON;0GOAL NET",
   "1f946;0RIFLE;0FIRST PLACE MEDAL;0SECOND PLACE MEDAL;0THIRD PLACE MEDAL;0BOXING GLOVE",
   "1f94b;0MARTIAL ARTS UNIFORM;0CURLING STONE;0LACROSSE STICK AND BALL;0SOFTBALL;0FLYING DISC",
   "1f950;0CROISSANT;0AVOCADO;0CUCUMBER;0BACON;0POTATO;0CARROT;0BAGUETTE BREAD;0GREEN SALAD",
   "1f958;0SHALLOW PAN OF FOOD;0STUFFED FLATBREAD;0EGG;0GLASS OF MILK;0PEANUTS;0KIWIFRUIT",
   "1f95e;0PANCAKES;0DUMPLING;0FORTUNE COOKIE;0TAKEOUT BOX;0CHOPSTICKS;0BOWL WITH SPOON",
   "1f964;0CUP WITH STRAW;0COCONUT;0BROCCOLI;0PIE;0PRETZEL;0CUT OF MEAT;0SANDWICH;0CANNED FOOD",
   "1f96c;0LEAFY GREEN;0MANGO;0MOON CAKE;0BAGEL;0SMILING FACE WITH SMILING EYES AND THREE HEARTS",
   "1f971;0YAWNING FACE;0SMILING FACE WITH TEAR;0FACE WITH PARTY HORN AND PARTY HAT",
   "1f974;0FACE WITH UNEVEN EYES AND WAVY MOUTH;0OVERHEATED FACE;0FREEZING FACE;0NINJA",
   "1f978;0DISGUISED FACE;0FACE HOLDING BACK TEARS;1WITH PLEADING EYES;0SARI;0LAB COAT;0GOGGLES",
   "1f97e;0HIKING BOOT;0FLAT SHOE;0CRAB;0LION FACE;0SCORPION;0TURKEY;0UNICORN FACE;0EAGLE;0DUCK",
   "1f987;0BAT;0SHARK;0OWL;0FOX FACE;0BUTTERFLY;0DEER;0GORILLA;0LIZARD;0RHINOCEROS;0SHRIMP",
   "1f991;0SQUID;0GIRAFFE FACE;0ZEBRA FACE;0HEDGEHOG;0SAUROPOD;0T-REX;0CRICKET;0KANGAROO;0LLAMA",
   "1f99a;0PEACOCK;0HIPPOPOTAMUS;0PARROT;0RACCOON;0LOBSTER;0MOSQUITO;0MICROBE;0BADGER;0SWAN",
   "1f9a3;0MAMMOTH;0DODO;0SLOTH;0OTTER;0ORANGUTAN;0SKUNK;0FLAMINGO;0OYSTER;0BEAVER;0BISON;0SEAL",
   "1f9ae;0GUIDE DOG;0PROBING CANE;0EMOJI COMPONENT RED HAIR;2CURLY HAIR;2BALD;2WHITE HAIR;0BONE",
   "1f9b5;0LEG;0FOOT;0TOOTH;0SUPERHERO;0SUPERVILLAIN;0SAFETY VEST;0EAR WITH HEARING AID",
   "1f9bc;0MOTORIZED WHEELCHAIR;0MANUAL WHEELCHAIR;0MECHANICAL ARM;1LEG;0CHEESE WEDGE;0CUPCAKE",
   "1f9c2;0SALT SHAKER;0BEVERAGE BOX;0GARLIC;0ONION;0FALAFEL;0WAFFLE;0BUTTER;0MATE DRINK",
   "1f9ca;0ICE CUBE;0BUBBLE TEA;0TROLL;0STANDING PERSON;0KNEELING PERSON;0DEAF PERSON",
   "1f9d0;0FACE WITH MONOCLE;0ADULT;0CHILD;0OLDER ADULT;0BEARDED PERSON;0PERSON WITH HEADSCARF",
   "1f9d6;0PERSON IN STEAMY ROOM;1CLIMBING;1IN LOTUS POSITION;0MAGE;0FAIRY;0VAMPIRE;0MERPERSON",
   "1f9dd;0ELF;0GENIE;0ZOMBIE;0BRAIN;0ORANGE HEART;0BILLED CAP;0SCARF;0GLOVES;0COAT;0SOCKS",
   "1f9e7;0RED GIFT ENVELOPE;0FIRECRACKER;0JIGSAW PUZZLE PIECE;0TEST TUBE;0PETRI DISH",
   "1f9ec;0DNA DOUBLE HELIX;0COMPASS;0ABACUS;0FIRE EXTINGUISHER;0TOOLBOX;0BRICK;0MAGNET;0LUGGAGE",
   "1f9f4;0LOTION BOTTLE;0SPOOL OF THREAD;0BALL OF YARN;0SAFETY PIN;0TEDDY BEAR;0BROOM;0BASKET",
   "1f9fb;0ROLL OF PAPER;0BAR OF SOAP;0SPONGE;0RECEIPT;0NAZAR AMULET"]

end TypeSchema.Text.CharacterName
