/-!
Names of characters: pictures, and the scripts before them (U+1E000 to U+1F5FF).
-/
namespace ArrowMachine.Text.Name

/-- The runs of these names, in the form that `codeIn?` reads. -/
def emoji : String := "
1E000 COMBINING GLAGOLITIC LETTER *AZU|BUKY|VEDE|GLAGOLI|DOBRO|YESTU|ZHIVETE;
1E008 COMBINING GLAGOLITIC LETTER *ZEMLJA|IZHE|INITIAL IZHE|I|DJERVI|KAKO|LJUDIJE|MYSLITE|NASHI|
ONU|POKOJI|RITSI|SLOVO|TVRIDO|UKU|FRITU|HERU;1E01B COMBINING GLAGOLITIC LETTER *SHTA|TSI|CHRIVI|
SHA|YERU|YERI|YATI;1E023 COMBINING GLAGOLITIC LETTER *YU|SMALL YUS;
1E026 COMBINING GLAGOLITIC LETTER *YO|IOTATED SMALL YUS|BIG YUS|IOTATED BIG YUS|FITA;
1E100 NYIAKENG PUACHUE HMONG LETTER *MA|TSA|NTA|TA|HA|NA|XA|NKA|CA|LA|SA|ZA|NCA|NTSA|KA|DA|NYA|
NRA|VA|NTXA|TXA|FA|RA|QA|YA|NQA|PA|XYA|NPA|DLA|NPLA|HAH|MLA|PLA|GA|RRA|A|AA|I|U|O|OO|E|EE|W;
1E130 NYIAKENG PUACHUE HMONG TONE-*B|M|J|V|S|G|D;1E137 NYIAKENG PUACHUE HMONG SIGN FOR *PERSON|
THING|LOCATION|ANIMAL|INVERTEBRATE;1E13C NYIAKENG PUACHUE HMONG *SIGN XW XW|SYLLABLE LENGTHENER;
1E140 NYIAKENG PUACHUE HMONG DIGIT *ZERO|ONE|TWO|THREE|FOUR|FIVE|SIX|SEVEN|EIGHT|NINE;
1E14E NYIAKENG PUACHUE HMONG *LOGOGRAM NYAJ|CIRCLED CA;1E290 TOTO LETTER *PA|BA|TA|DA|KA|GA|MA|NA|
NGA|SA|CHA|YA|WA|JA|HA|RA|LA|I|BREATHY I|IU|BREATHY IU|U|E|BREATHY E|EO|BREATHY EO|O|AE|
BREATHY AE|A;1E2AE TOTO SIGN RISING TONE*;1E2C0 WANCHO LETTER *AA|A|BA|CA|DA|GA|YA|PHA|LA|NA|PA|
TA|THA|FA|SA|SHA|JA|ZA|WA|VA|KA|O|AU|RA|MA|KHA|HA|E|I|NGA|U|LLHA|TSA|TRA|ONG|AANG|ANG|ING|ON|EN|
AAN|NYA|UEN|YIH;1E2EC WANCHO TONE *TUP|TUPNI|KOI|KOINI;1E2F0 WANCHO DIGIT *ZERO|ONE|TWO|THREE|
FOUR|FIVE|SIX|SEVEN|EIGHT|NINE;1E2FF WANCHO NGUN SIGN*;1E7E0 ETHIOPIC SYLLABLE *HHYA|HHYU|HHYI|
HHYAA|HHYEE|HHYE|HHYO;1E7E8 ETHIOPIC SYLLABLE *GURAGE HHWA|HHWI|HHWEE|HHWE;
1E7ED ETHIOPIC SYLLABLE GURAGE *MWI|MWEE;1E7F0 ETHIOPIC SYLLABLE GURAGE *QWI|QWEE|QWE|BWI|BWEE|
KWI|KWEE|KWE|GWI|GWEE|GWE|FWI|FWEE|PWI|PWEE;1E800 MENDE KIKAKUI SYLLABLE *M001 KI|M002 KA|M003 KU|
M065 KEE|M095 KE|M076 KOO|M048 KO|M179 KUA|M004 WI|M005 WA|M006 WU|M126 WEE|M118 WE|M114 WOO|
M045 WO|M194 WUI|M143 WEI|M061 WVI|M049 WVA|M139 WVE|M007 MIN|M008 MAN|M009 MUN|M059 MEN|M094 MON|
M154 MUAN|M189 MUEN|M010 BI|M011 BA|M012 BU|M150 BEE|M097 BE|M103 BOO|M138 BO|M013 I|M014 A|
M015 U|M163 EE|M100 E|M165 OO|M147 O|M137 EI|M131 IN|M135 IN|M195 AN|M178 EN|M019 SI|M020 SA|
M021 SU|M162 SEE|M116 SE|M136 SOO|M079 SO|M196 SIA|M025 LI|M026 LA|M027 LU|M084 LEE|M073 LE|
M054 LOO|M153 LO|M110 LONG LE|M016 DI|M017 DA|M018 DU|M089 DEE|M180 DOO|M181 DO|M022 TI|M023 TA|
M024 TU|M091 TEE|M055 TE|M104 TOO|M069 TO|M028 JI|M029 JA|M030 JU|M157 JEE|M113 JE|M160 JOO|
M063 JO|M175 LONG JO|M031 YI|M032 YA|M033 YU|M109 YEE|M080 YE|M141 YOO|M121 YO|M034 FI|M035 FA|
M036 FU|M078 FEE|M075 FE|M133 FOO|M088 FO|M197 FUA|M101 FAN|M037 NIN|M038 NAN|M039 NUN|M117 NEN|
M169 NON|M176 HI|M041 HA|M186 HU|M040 HEE|M096 HE|M042 HOO|M140 HO|M083 HEEI|M128 HOOU|M053 HIN|
M130 HAN|M087 HUN|M052 HEN|M193 HON|M046 HUAN|M090 NGGI|M043 NGGA|M082 NGGU|M115 NGGEE|M146 NGGE|
M156 NGGOO|M120 NGGO|M159 NGGAA|M127 NGGUA|M086 LONG NGGE|M106 LONG NGGOO|M183 LONG NGGO|M155 GI|
M111 GA|M168 GU|M190 GEE|M166 GUEI|M167 GUAN|M184 NGEN|M057 NGON|M177 NGUAN|M068 PI|M099 PA|
M050 PU|M081 PEE|M051 PE|M102 POO|M066 PO|M145 MBI|M062 MBA|M122 MBU|M047 MBEE|M188 MBEE|M072 MBE|
M172 MBOO|M174 MBO|M187 MBUU|M161 LONG MBE|M105 LONG MBOO|M142 LONG MBO|M132 KPI|M092 KPA|
M074 KPU|M044 KPEE|M108 KPE|M112 KPOO|M158 KPO|M124 GBI|M056 GBA|M148 GBU|M093 GBEE|M107 GBE|
M071 GBOO|M070 GBO|M171 RA|M123 NDI|M129 NDA|M125 NDU|M191 NDEE|M119 NDE|M067 NDOO|M064 NDO|
M152 NJA|M192 NJU|M149 NJEE|M134 NJOO|M182 VI|M185 VA|M151 VU|M173 VEE|M085 VE|M144 VOO|M077 VO|
M164 NYIN|M058 NYAN|M170 NYUN|M098 NYEN|M060 NYON;1E8C7 MENDE KIKAKUI DIGIT *ONE|TWO|THREE|FOUR|
FIVE|SIX|SEVEN|EIGHT|NINE;1E8D0 MENDE KIKAKUI COMBINING NUMBER *TEENS|TENS|HUNDREDS|THOUSANDS|
TEN THOUSANDS|HUNDRED THOUSANDS|MILLIONS;1E900 ADLAM CAPITAL LETTER *ALIF|DAALI|LAAM|MIIM|BA|
SINNYIIYHE|PE|BHE|RA|E|FA|I|O|DHA|YHE|WAW|NUN|KAF|YA|U|JIIM|CHI|HA|QAAF|GA|NYA|TU|NHA|VA|KHA|GBE|
ZAL|KPO|SHA;1E922 ADLAM SMALL LETTER *ALIF|DAALI|LAAM|MIIM|BA|SINNYIIYHE|PE|BHE|RA|E|FA|I|O|DHA|
YHE|WAW|NUN|KAF|YA|U|JIIM|CHI|HA|QAAF|GA|NYA|TU|NHA|VA|KHA|GBE|ZAL|KPO|SHA;1E944 ADLAM *
ALIF LENGTHENER|VOWEL LENGTHENER|GEMINATION MARK|HAMZA|CONSONANT MODIFIER|
GEMINATE CONSONANT MODIFIER|NUKTA|NASALIZATION MARK;1E950 ADLAM DIGIT *ZERO|ONE|TWO|THREE|FOUR|
FIVE|SIX|SEVEN|EIGHT|NINE;1E95E ADLAM INITIAL *EXCLAMATION MARK|QUESTION MARK;
1EC71 INDIC SIYAQ NUMBER *ONE|TWO|THREE|FOUR|FIVE|SIX|SEVEN|EIGHT|NINE|TEN|TWENTY|THIRTY|FORTY|
FIFTY|SIXTY|SEVENTY|EIGHTY|NINETY|ONE HUNDRED|TWO HUNDRED|THREE HUNDRED|FOUR HUNDRED|FIVE HUNDRED|
SIX HUNDRED|SEVEN HUNDRED|EIGHT HUNDRED|NINE HUNDRED|ONE THOUSAND|TWO THOUSAND|THREE THOUSAND|
FOUR THOUSAND|FIVE THOUSAND|SIX THOUSAND|SEVEN THOUSAND|EIGHT THOUSAND|NINE THOUSAND|TEN THOUSAND|
TWENTY THOUSAND|THIRTY THOUSAND|FORTY THOUSAND|FIFTY THOUSAND|SIXTY THOUSAND|SEVENTY THOUSAND|
EIGHTY THOUSAND|NINETY THOUSAND|LAKH|LAKHAN;1ECA0 INDIC SIYAQ *LAKH MARK|NUMBER KAROR|
NUMBER KARORAN;1ECA3 INDIC SIYAQ NUMBER PREFIXED *ONE|TWO|THREE|FOUR|FIVE|SIX|SEVEN|EIGHT|NINE;
1ECAC INDIC SIYAQ *PLACEHOLDER|FRACTION ONE QUARTER|FRACTION ONE HALF|FRACTION THREE QUARTERS|
RUPEE MARK|NUMBER ALTERNATE ONE|NUMBER ALTERNATE TWO|NUMBER ALTERNATE TEN THOUSAND|
ALTERNATE LAKH MARK;1ED01 OTTOMAN SIYAQ NUMBER *ONE|TWO|THREE|FOUR|FIVE|SIX|SEVEN|EIGHT|NINE|TEN|
TWENTY|THIRTY|FORTY|FIFTY|SIXTY|SEVENTY|EIGHTY|NINETY|ONE HUNDRED|TWO HUNDRED|THREE HUNDRED|
FOUR HUNDRED|FIVE HUNDRED|SIX HUNDRED|SEVEN HUNDRED|EIGHT HUNDRED|NINE HUNDRED|ONE THOUSAND|
TWO THOUSAND|THREE THOUSAND|FOUR THOUSAND|FIVE THOUSAND|SIX THOUSAND|SEVEN THOUSAND|
EIGHT THOUSAND|NINE THOUSAND|TEN THOUSAND|TWENTY THOUSAND|THIRTY THOUSAND|FORTY THOUSAND|
FIFTY THOUSAND|SIXTY THOUSAND|SEVENTY THOUSAND|EIGHTY THOUSAND|NINETY THOUSAND;
1ED2E OTTOMAN SIYAQ MARRATAN*;1ED2F OTTOMAN SIYAQ ALTERNATE NUMBER *TWO|THREE|FOUR|FIVE|SIX|SEVEN|
EIGHT|NINE|TEN|FOUR HUNDRED|SIX HUNDRED|TWO THOUSAND|TEN THOUSAND;
1ED3C OTTOMAN SIYAQ FRACTION ONE *HALF|SIXTH;1EE00 ARABIC MATHEMATICAL *ALEF|BEH|JEEM|DAL;
1EE05 ARABIC MATHEMATICAL *WAW|ZAIN|HAH|TAH|YEH|KAF|LAM|MEEM|NOON|SEEN|AIN|FEH|SAD|QAF|REH|SHEEN|
TEH|THEH|KHAH|THAL|DAD|ZAH|GHAIN|DOTLESS BEH|DOTLESS NOON|DOTLESS FEH|DOTLESS QAF;
1EE21 ARABIC MATHEMATICAL INITIAL *BEH|JEEM;1EE24 ARABIC MATHEMATICAL INITIAL HEH*;
1EE27 ARABIC MATHEMATICAL INITIAL HAH*;1EE29 ARABIC MATHEMATICAL INITIAL *YEH|KAF|LAM|MEEM|NOON|
SEEN|AIN|FEH|SAD|QAF;1EE34 ARABIC MATHEMATICAL INITIAL *SHEEN|TEH|THEH|KHAH;
1EE39 ARABIC MATHEMATICAL INITIAL DAD*;1EE3B ARABIC MATHEMATICAL INITIAL GHAIN*;
1EE42 ARABIC MATHEMATICAL TAILED JEEM*;1EE47 ARABIC MATHEMATICAL TAILED HAH*;
1EE49 ARABIC MATHEMATICAL TAILED YEH*;1EE4B ARABIC MATHEMATICAL TAILED LAM*;
1EE4D ARABIC MATHEMATICAL TAILED *NOON|SEEN|AIN;1EE51 ARABIC MATHEMATICAL TAILED *SAD|QAF;
1EE54 ARABIC MATHEMATICAL TAILED SHEEN*;1EE57 ARABIC MATHEMATICAL TAILED KHAH*;
1EE59 ARABIC MATHEMATICAL TAILED DAD*;1EE5B ARABIC MATHEMATICAL TAILED GHAIN*;
1EE5D ARABIC MATHEMATICAL TAILED DOTLESS NOON*;1EE5F ARABIC MATHEMATICAL TAILED DOTLESS QAF*;
1EE61 ARABIC MATHEMATICAL STRETCHED *BEH|JEEM;1EE64 ARABIC MATHEMATICAL STRETCHED HEH*;
1EE67 ARABIC MATHEMATICAL STRETCHED *HAH|TAH|YEH|KAF;1EE6C ARABIC MATHEMATICAL STRETCHED *MEEM|
NOON|SEEN|AIN|FEH|SAD|QAF;1EE74 ARABIC MATHEMATICAL STRETCHED *SHEEN|TEH|THEH|KHAH;
1EE79 ARABIC MATHEMATICAL STRETCHED *DAD|ZAH|GHAIN|DOTLESS BEH;
1EE7E ARABIC MATHEMATICAL STRETCHED DOTLESS FEH*;1EE80 ARABIC MATHEMATICAL LOOPED *ALEF|BEH|JEEM|
DAL|HEH|WAW|ZAIN|HAH|TAH|YEH;1EE8B ARABIC MATHEMATICAL LOOPED *LAM|MEEM|NOON|SEEN|AIN|FEH|SAD|QAF|
REH|SHEEN|TEH|THEH|KHAH|THAL|DAD|ZAH|GHAIN;1EEA1 ARABIC MATHEMATICAL DOUBLE-STRUCK *BEH|JEEM|DAL;
1EEA5 ARABIC MATHEMATICAL DOUBLE-STRUCK *WAW|ZAIN|HAH|TAH|YEH;
1EEAB ARABIC MATHEMATICAL DOUBLE-STRUCK *LAM|MEEM|NOON|SEEN|AIN|FEH|SAD|QAF|REH|SHEEN|TEH|THEH|
KHAH|THAL|DAD|ZAH|GHAIN;1EEF0 ARABIC MATHEMATICAL OPERATOR *MEEM WITH HAH WITH TATWEEL|
HAH WITH DAL;1F000 MAHJONG TILE *EAST WIND|SOUTH WIND|WEST WIND|NORTH WIND|RED DRAGON|
GREEN DRAGON|WHITE DRAGON|ONE OF CHARACTERS|TWO OF CHARACTERS|THREE OF CHARACTERS|
FOUR OF CHARACTERS|FIVE OF CHARACTERS|SIX OF CHARACTERS|SEVEN OF CHARACTERS|EIGHT OF CHARACTERS|
NINE OF CHARACTERS|ONE OF BAMBOOS|TWO OF BAMBOOS|THREE OF BAMBOOS|FOUR OF BAMBOOS|FIVE OF BAMBOOS|
SIX OF BAMBOOS|SEVEN OF BAMBOOS|EIGHT OF BAMBOOS|NINE OF BAMBOOS|ONE OF CIRCLES|TWO OF CIRCLES|
THREE OF CIRCLES|FOUR OF CIRCLES|FIVE OF CIRCLES|SIX OF CIRCLES|SEVEN OF CIRCLES|EIGHT OF CIRCLES|
NINE OF CIRCLES|PLUM|ORCHID|BAMBOO|CHRYSANTHEMUM|SPRING|SUMMER|AUTUMN|WINTER|JOKER|BACK;
1F030 DOMINO TILE HORIZONTAL BACK*;1F031 DOMINO TILE HORIZONTAL-*00-00|00-01|00-02|00-03|00-04|
00-05|00-06|01-00|01-01|01-02|01-03|01-04|01-05|01-06|02-00|02-01|02-02|02-03|02-04|02-05|02-06|
03-00|03-01|03-02|03-03|03-04|03-05|03-06|04-00|04-01|04-02|04-03|04-04|04-05|04-06|05-00|05-01|
05-02|05-03|05-04|05-05|05-06|06-00|06-01|06-02|06-03|06-04|06-05|06-06;
1F062 DOMINO TILE VERTICAL BACK*;1F063 DOMINO TILE VERTICAL-*00-00|00-01|00-02|00-03|00-04|00-05|
00-06|01-00|01-01|01-02|01-03|01-04|01-05|01-06|02-00|02-01|02-02|02-03|02-04|02-05|02-06|03-00|
03-01|03-02|03-03|03-04|03-05|03-06|04-00|04-01|04-02|04-03|04-04|04-05|04-06|05-00|05-01|05-02|
05-03|05-04|05-05|05-06|06-00|06-01|06-02|06-03|06-04|06-05|06-06;1F0A0 PLAYING CARD *BACK|
ACE OF SPADES|TWO OF SPADES|THREE OF SPADES|FOUR OF SPADES|FIVE OF SPADES|SIX OF SPADES|
SEVEN OF SPADES|EIGHT OF SPADES|NINE OF SPADES|TEN OF SPADES|JACK OF SPADES|KNIGHT OF SPADES|
QUEEN OF SPADES|KING OF SPADES;1F0B1 PLAYING CARD *ACE OF HEARTS|TWO OF HEARTS|THREE OF HEARTS|
FOUR OF HEARTS|FIVE OF HEARTS|SIX OF HEARTS|SEVEN OF HEARTS|EIGHT OF HEARTS|NINE OF HEARTS|
TEN OF HEARTS|JACK OF HEARTS|KNIGHT OF HEARTS|QUEEN OF HEARTS|KING OF HEARTS|RED JOKER;
1F0C1 PLAYING CARD *ACE OF DIAMONDS|TWO OF DIAMONDS|THREE OF DIAMONDS|FOUR OF DIAMONDS|
FIVE OF DIAMONDS|SIX OF DIAMONDS|SEVEN OF DIAMONDS|EIGHT OF DIAMONDS|NINE OF DIAMONDS|
TEN OF DIAMONDS|JACK OF DIAMONDS|KNIGHT OF DIAMONDS|QUEEN OF DIAMONDS|KING OF DIAMONDS|
BLACK JOKER;1F0D1 PLAYING CARD *ACE OF CLUBS|TWO OF CLUBS|THREE OF CLUBS|FOUR OF CLUBS|
FIVE OF CLUBS|SIX OF CLUBS|SEVEN OF CLUBS|EIGHT OF CLUBS|NINE OF CLUBS|TEN OF CLUBS|JACK OF CLUBS|
KNIGHT OF CLUBS|QUEEN OF CLUBS|KING OF CLUBS|WHITE JOKER|FOOL;1F0E1 PLAYING CARD TRUMP-*1|2|3|4|5|
6|7|8|9|10|11|12|13|14|15|16|17|18|19|20|21;1F100 DIGIT *ZERO FULL STOP|ZERO COMMA|ONE COMMA|
TWO COMMA|THREE COMMA|FOUR COMMA|FIVE COMMA|SIX COMMA|SEVEN COMMA|EIGHT COMMA|NINE COMMA;
1F10B DINGBAT *CIRCLED SANS-SERIF DIGIT ZERO|NEGATIVE CIRCLED SANS-SERIF DIGIT ZERO;
1F10D CIRCLED *ZERO WITH SLASH|ANTICLOCKWISE ARROW|DOLLAR SIGN WITH OVERLAID BACKSLASH;
1F110 PARENTHESIZED LATIN CAPITAL LETTER *A|B|C|D|E|F|G|H|I|J|K|L|M|N|O|P|Q|R|S|T|U|V|W|X|Y|Z;
1F12A TORTOISE SHELL BRACKETED LATIN CAPITAL LETTER S*;1F12B CIRCLED ITALIC LATIN CAPITAL LETTER *
C|R;1F12D CIRCLED *CD|WZ;1F12F COPYLEFT SYMBOL*;1F130 SQUARED LATIN CAPITAL LETTER *A|B|C|D|E|F|G|
H|I|J|K|L|M|N|O|P|Q|R|S|T|U|V|W|X|Y|Z;1F14A SQUARED *HV|MV|SD|SS|PPV|WC;
1F150 NEGATIVE CIRCLED LATIN CAPITAL LETTER *A|B|C|D|E|F|G|H|I|J|K|L|M|N|O|P|Q|R|S|T|U|V|W|X|Y|Z;
1F16A RAISED *MC SIGN|MD SIGN|MR SIGN;1F16D CIRCLED *CC|C WITH OVERLAID BACKSLASH|HUMAN FIGURE;
1F170 NEGATIVE SQUARED LATIN CAPITAL LETTER *A|B|C|D|E|F|G|H|I|J|K|L|M|N|O|P|Q|R|S|T|U|V|W|X|Y|Z;
1F18A CROSSED NEGATIVE SQUARED LATIN CAPITAL LETTER P*;1F18B NEGATIVE SQUARED *IC|PA|SA|AB|WC;
1F190 SQUARE DJ*;1F191 SQUARED *CL|COOL|FREE|ID|NEW|NG|OK|SOS|UP WITH EXCLAMATION MARK|VS|THREE D|
SECOND SCREEN|TWO K|FOUR K|EIGHT K|FIVE POINT ONE|SEVEN POINT ONE|TWENTY-TWO POINT TWO|SIXTY P|
ONE HUNDRED TWENTY P|LATIN SMALL LETTER D|HC|HDR|HI-RES|LOSSLESS|SHV|UHD|VOD;
1F1AD MASK WORK SYMBOL*;1F1E6 REGIONAL INDICATOR SYMBOL LETTER *A|B|C|D|E|F|G|H|I|J|K|L|M|N|O|P|Q|
R|S|T|U|V|W|X|Y|Z;1F200 SQUARE HIRAGANA HOKA*;1F201 SQUARED KATAKANA *KOKO|SA;
1F210 SQUARED CJK UNIFIED IDEOGRAPH-*624B|5B57|53CC;1F213 SQUARED KATAKANA DE*;
1F214 SQUARED CJK UNIFIED IDEOGRAPH-*4E8C|591A|89E3|5929|4EA4|6620|7121|6599|524D|5F8C|518D|65B0|
521D|7D42|751F|8CA9|58F0|5439|6F14|6295|6355|4E00|4E09|904A|5DE6|4E2D|53F3|6307|8D70|6253|7981|
7A7A|5408|6E80|6709|6708|7533|5272|55B6|914D;
1F240 TORTOISE SHELL BRACKETED CJK UNIFIED IDEOGRAPH-*672C|4E09|4E8C|5B89|70B9|6253|76D7|52DD|
6557;1F250 CIRCLED IDEOGRAPH *ADVANTAGE|ACCEPT;1F260 ROUNDED SYMBOL FOR *FU|LU|SHOU|XI|SHUANGXI|
CAI;1F300 *CYCLONE|FOGGY|CLOSED UMBRELLA|NIGHT WITH STARS|SUNRISE OVER MOUNTAINS|SUNRISE|
CITYSCAPE AT DUSK|SUNSET OVER BUILDINGS|RAINBOW|BRIDGE AT NIGHT|WATER WAVE|VOLCANO|MILKY WAY;
1F30D EARTH GLOBE *EUROPE-AFRICA|AMERICAS|ASIA-AUSTRALIA;1F310 *GLOBE WITH MERIDIANS|
NEW MOON SYMBOL|WAXING CRESCENT MOON SYMBOL|FIRST QUARTER MOON SYMBOL|WAXING GIBBOUS MOON SYMBOL|
FULL MOON SYMBOL|WANING GIBBOUS MOON SYMBOL|LAST QUARTER MOON SYMBOL|WANING CRESCENT MOON SYMBOL|
CRESCENT MOON|NEW MOON WITH FACE|FIRST QUARTER MOON WITH FACE|LAST QUARTER MOON WITH FACE|
FULL MOON WITH FACE|SUN WITH FACE|GLOWING STAR|SHOOTING STAR|THERMOMETER|BLACK DROPLET|WHITE SUN;
1F324 WHITE SUN *WITH SMALL CLOUD|BEHIND CLOUD|BEHIND CLOUD WITH RAIN;1F327 CLOUD WITH *RAIN|SNOW|
LIGHTNING|TORNADO;1F32B *FOG|WIND BLOWING FACE|HOT DOG|TACO|BURRITO|CHESTNUT|SEEDLING|
EVERGREEN TREE|DECIDUOUS TREE|PALM TREE|CACTUS|HOT PEPPER|TULIP|CHERRY BLOSSOM|ROSE|HIBISCUS|
SUNFLOWER|BLOSSOM|EAR OF MAIZE|EAR OF RICE|HERB|FOUR LEAF CLOVER|MAPLE LEAF|FALLEN LEAF|
LEAF FLUTTERING IN WIND|MUSHROOM|TOMATO|AUBERGINE|GRAPES|MELON|WATERMELON|TANGERINE|LEMON|BANANA|
PINEAPPLE|RED APPLE|GREEN APPLE|PEAR|PEACH|CHERRIES|STRAWBERRY|HAMBURGER|SLICE OF PIZZA|
MEAT ON BONE|POULTRY LEG|RICE CRACKER|RICE BALL|COOKED RICE|CURRY AND RICE|STEAMING BOWL|
SPAGHETTI|BREAD|FRENCH FRIES|ROASTED SWEET POTATO|DANGO|ODEN|SUSHI|FRIED SHRIMP|
FISH CAKE WITH SWIRL DESIGN|SOFT ICE CREAM|SHAVED ICE|ICE CREAM|DOUGHNUT|COOKIE|CHOCOLATE BAR|
CANDY|LOLLIPOP|CUSTARD|HONEY POT|SHORTCAKE|BENTO BOX|POT OF FOOD|COOKING|FORK AND KNIFE|
TEACUP WITHOUT HANDLE|SAKE BOTTLE AND CUP|WINE GLASS|COCKTAIL GLASS|TROPICAL DRINK|BEER MUG|
CLINKING BEER MUGS|BABY BOTTLE|FORK AND KNIFE WITH PLATE|BOTTLE WITH POPPING CORK|POPCORN|RIBBON|
WRAPPED PRESENT|BIRTHDAY CAKE|JACK-O-LANTERN|CHRISTMAS TREE|FATHER CHRISTMAS|FIREWORKS|
FIREWORK SPARKLER|BALLOON|PARTY POPPER|CONFETTI BALL|TANABATA TREE|CROSSED FLAGS|PINE DECORATION|
JAPANESE DOLLS|CARP STREAMER|WIND CHIME|MOON VIEWING CEREMONY|SCHOOL SATCHEL|GRADUATION CAP|
HEART WITH TIP ON THE LEFT|BOUQUET OF FLOWERS|MILITARY MEDAL|REMINDER RIBBON|
MUSICAL KEYBOARD WITH JACKS|STUDIO MICROPHONE|LEVEL SLIDER|CONTROL KNOBS|
BEAMED ASCENDING MUSICAL NOTES|BEAMED DESCENDING MUSICAL NOTES|FILM FRAMES|ADMISSION TICKETS|
CAROUSEL HORSE|FERRIS WHEEL|ROLLER COASTER|FISHING POLE AND FISH|MICROPHONE|MOVIE CAMERA|CINEMA|
HEADPHONE|ARTIST PALETTE|TOP HAT|CIRCUS TENT|TICKET|CLAPPER BOARD|PERFORMING ARTS|VIDEO GAME|
DIRECT HIT|SLOT MACHINE|BILLIARDS|GAME DIE|BOWLING|FLOWER PLAYING CARDS|MUSICAL NOTE|
MULTIPLE MUSICAL NOTES|SAXOPHONE|GUITAR|MUSICAL KEYBOARD|TRUMPET|VIOLIN|MUSICAL SCORE|
RUNNING SHIRT WITH SASH|TENNIS RACQUET AND BALL|SKI AND SKI BOOT|BASKETBALL AND HOOP|
CHEQUERED FLAG|SNOWBOARDER|RUNNER|SURFER|SPORTS MEDAL|TROPHY|HORSE RACING|AMERICAN FOOTBALL|
RUGBY FOOTBALL|SWIMMER|WEIGHT LIFTER|GOLFER|RACING MOTORCYCLE|RACING CAR|CRICKET BAT AND BALL|
VOLLEYBALL|FIELD HOCKEY STICK AND BALL|ICE HOCKEY STICK AND PUCK|TABLE TENNIS PADDLE AND BALL|
SNOW CAPPED MOUNTAIN|CAMPING|BEACH WITH UMBRELLA|BUILDING CONSTRUCTION|HOUSE BUILDINGS|CITYSCAPE|
DERELICT HOUSE BUILDING|CLASSICAL BUILDING|DESERT|DESERT ISLAND|NATIONAL PARK|STADIUM|
HOUSE BUILDING|HOUSE WITH GARDEN|OFFICE BUILDING|JAPANESE POST OFFICE|EUROPEAN POST OFFICE|
HOSPITAL|BANK|AUTOMATED TELLER MACHINE|HOTEL|LOVE HOTEL|CONVENIENCE STORE|SCHOOL|DEPARTMENT STORE|
FACTORY|IZAKAYA LANTERN|JAPANESE CASTLE|EUROPEAN CASTLE|WHITE PENNANT|BLACK PENNANT|
WAVING WHITE FLAG|WAVING BLACK FLAG|ROSETTE|BLACK ROSETTE|LABEL|BADMINTON RACQUET AND SHUTTLECOCK|
BOW AND ARROW|AMPHORA;1F3FB EMOJI MODIFIER FITZPATRICK TYPE-*1-2|3|4|5|6;1F400 *RAT|MOUSE|OX|
WATER BUFFALO|COW|TIGER|LEOPARD|RABBIT|CAT|DRAGON|CROCODILE|WHALE|SNAIL|SNAKE|HORSE|RAM|GOAT|
SHEEP|MONKEY|ROOSTER|CHICKEN|DOG|PIG|BOAR|ELEPHANT|OCTOPUS|SPIRAL SHELL|BUG|ANT|HONEYBEE|
LADY BEETLE|FISH|TROPICAL FISH|BLOWFISH|TURTLE|HATCHING CHICK|BABY CHICK|FRONT-FACING BABY CHICK|
BIRD|PENGUIN|KOALA|POODLE|DROMEDARY CAMEL|BACTRIAN CAMEL|DOLPHIN|MOUSE FACE|COW FACE|TIGER FACE|
RABBIT FACE|CAT FACE|DRAGON FACE|SPOUTING WHALE|HORSE FACE|MONKEY FACE|DOG FACE|PIG FACE|
FROG FACE|HAMSTER FACE|WOLF FACE|BEAR FACE|PANDA FACE|PIG NOSE|PAW PRINTS|CHIPMUNK|EYES|EYE|EAR|
NOSE|MOUTH|TONGUE;1F446 WHITE *UP POINTING BACKHAND INDEX|DOWN POINTING BACKHAND INDEX|
LEFT POINTING BACKHAND INDEX|RIGHT POINTING BACKHAND INDEX;1F44A *FISTED HAND SIGN|
WAVING HAND SIGN|OK HAND SIGN|THUMBS UP SIGN|THUMBS DOWN SIGN|CLAPPING HANDS SIGN|OPEN HANDS SIGN|
CROWN|WOMANS HAT|EYEGLASSES|NECKTIE|T-SHIRT|JEANS|DRESS|KIMONO|BIKINI|WOMANS CLOTHES|PURSE|
HANDBAG|POUCH|MANS SHOE|ATHLETIC SHOE|HIGH-HEELED SHOE|WOMANS SANDAL|WOMANS BOOTS|FOOTPRINTS|
BUST IN SILHOUETTE|BUSTS IN SILHOUETTE|BOY|GIRL|MAN|WOMAN|FAMILY|MAN AND WOMAN HOLDING HANDS|
TWO MEN HOLDING HANDS|TWO WOMEN HOLDING HANDS|POLICE OFFICER|WOMAN WITH BUNNY EARS|
BRIDE WITH VEIL|PERSON WITH BLOND HAIR|MAN WITH GUA PI MAO|MAN WITH TURBAN|OLDER MAN|OLDER WOMAN|
BABY|CONSTRUCTION WORKER|PRINCESS|JAPANESE OGRE|JAPANESE GOBLIN|GHOST|BABY ANGEL|
EXTRATERRESTRIAL ALIEN|ALIEN MONSTER|IMP|SKULL|INFORMATION DESK PERSON|GUARDSMAN|DANCER|LIPSTICK|
NAIL POLISH|FACE MASSAGE|HAIRCUT|BARBER POLE|SYRINGE|PILL|KISS MARK|LOVE LETTER|RING|GEM STONE|
KISS|BOUQUET|COUPLE WITH HEART|WEDDING|BEATING HEART|BROKEN HEART|TWO HEARTS|SPARKLING HEART|
GROWING HEART|HEART WITH ARROW|BLUE HEART|GREEN HEART|YELLOW HEART|PURPLE HEART|HEART WITH RIBBON|
REVOLVING HEARTS|HEART DECORATION|DIAMOND SHAPE WITH A DOT INSIDE|ELECTRIC LIGHT BULB|
ANGER SYMBOL|BOMB|SLEEPING SYMBOL|COLLISION SYMBOL|SPLASHING SWEAT SYMBOL|DROPLET|DASH SYMBOL|
PILE OF POO|FLEXED BICEPS|DIZZY SYMBOL|SPEECH BALLOON|THOUGHT BALLOON|WHITE FLOWER|
HUNDRED POINTS SYMBOL|MONEY BAG|CURRENCY EXCHANGE|HEAVY DOLLAR SIGN|CREDIT CARD;
1F4B4 BANKNOTE WITH *YEN SIGN|DOLLAR SIGN|EURO SIGN|POUND SIGN;1F4B8 *MONEY WITH WINGS|
CHART WITH UPWARDS TREND AND YEN SIGN|SEAT|PERSONAL COMPUTER|BRIEFCASE|MINIDISC|FLOPPY DISK|
OPTICAL DISC|DVD|FILE FOLDER|OPEN FILE FOLDER|PAGE WITH CURL|PAGE FACING UP|CALENDAR|
TEAR-OFF CALENDAR|CARD INDEX|CHART WITH UPWARDS TREND|CHART WITH DOWNWARDS TREND|BAR CHART|
CLIPBOARD|PUSHPIN|ROUND PUSHPIN|PAPERCLIP|STRAIGHT RULER|TRIANGULAR RULER|BOOKMARK TABS|LEDGER|
NOTEBOOK|NOTEBOOK WITH DECORATIVE COVER|CLOSED BOOK|OPEN BOOK|GREEN BOOK|BLUE BOOK|ORANGE BOOK|
BOOKS|NAME BADGE|SCROLL|MEMO|TELEPHONE RECEIVER|PAGER|FAX MACHINE|SATELLITE ANTENNA|
PUBLIC ADDRESS LOUDSPEAKER|CHEERING MEGAPHONE|OUTBOX TRAY|INBOX TRAY|PACKAGE|E-MAIL SYMBOL|
INCOMING ENVELOPE|ENVELOPE WITH DOWNWARDS ARROW ABOVE;1F4EA CLOSED MAILBOX WITH *LOWERED FLAG|
RAISED FLAG;1F4EC OPEN MAILBOX WITH *RAISED FLAG|LOWERED FLAG;1F4EE *POSTBOX|POSTAL HORN|
NEWSPAPER|MOBILE PHONE|MOBILE PHONE WITH RIGHTWARDS ARROW AT LEFT|VIBRATION MODE|MOBILE PHONE OFF|
NO MOBILE PHONES|ANTENNA WITH BARS|CAMERA|CAMERA WITH FLASH|VIDEO CAMERA|TELEVISION|RADIO|
VIDEOCASSETTE|FILM PROJECTOR|PORTABLE STEREO|PRAYER BEADS|TWISTED RIGHTWARDS ARROWS;
1F501 CLOCKWISE RIGHTWARDS AND LEFTWARDS OPEN CIRCLE *ARROWS|ARROWS WITH CIRCLED ONE OVERLAY;
1F503 *CLOCKWISE DOWNWARDS AND UPWARDS OPEN CIRCLE ARROWS|
ANTICLOCKWISE DOWNWARDS AND UPWARDS OPEN CIRCLE ARROWS|LOW BRIGHTNESS SYMBOL|
HIGH BRIGHTNESS SYMBOL|SPEAKER WITH CANCELLATION STROKE|SPEAKER|SPEAKER WITH ONE SOUND WAVE|
SPEAKER WITH THREE SOUND WAVES|BATTERY|ELECTRIC PLUG|LEFT-POINTING MAGNIFYING GLASS|
RIGHT-POINTING MAGNIFYING GLASS|LOCK WITH INK PEN|CLOSED LOCK WITH KEY|KEY|LOCK|OPEN LOCK|BELL|
BELL WITH CANCELLATION STROKE|BOOKMARK|LINK SYMBOL|RADIO BUTTON|BACK WITH LEFTWARDS ARROW ABOVE|
END WITH LEFTWARDS ARROW ABOVE|ON WITH EXCLAMATION MARK WITH LEFT RIGHT ARROW ABOVE|
SOON WITH RIGHTWARDS ARROW ABOVE|TOP WITH UPWARDS ARROW ABOVE|NO ONE UNDER EIGHTEEN SYMBOL|
KEYCAP TEN;1F520 INPUT SYMBOL FOR *LATIN CAPITAL LETTERS|LATIN SMALL LETTERS|NUMBERS|SYMBOLS|
LATIN LETTERS;1F525 *FIRE|ELECTRIC TORCH|WRENCH|HAMMER|NUT AND BOLT|HOCHO|PISTOL|MICROSCOPE|
TELESCOPE|CRYSTAL BALL|SIX POINTED STAR WITH MIDDLE DOT|JAPANESE SYMBOL FOR BEGINNER|
TRIDENT EMBLEM|BLACK SQUARE BUTTON|WHITE SQUARE BUTTON;1F534 LARGE *RED CIRCLE|BLUE CIRCLE|
ORANGE DIAMOND|BLUE DIAMOND;1F538 *SMALL ORANGE DIAMOND|SMALL BLUE DIAMOND|
UP-POINTING RED TRIANGLE|DOWN-POINTING RED TRIANGLE|UP-POINTING SMALL RED TRIANGLE|
DOWN-POINTING SMALL RED TRIANGLE|LOWER RIGHT SHADOWED WHITE CIRCLE|
UPPER RIGHT SHADOWED WHITE CIRCLE|CIRCLED CROSS POMMEE|CROSS POMMEE WITH HALF-CIRCLE BELOW|
CROSS POMMEE|NOTCHED LEFT SEMICIRCLE WITH THREE DOTS|NOTCHED RIGHT SEMICIRCLE WITH THREE DOTS|
SYMBOL FOR MARKS CHAPTER|WHITE LATIN CROSS|HEAVY LATIN CROSS|CELTIC CROSS|OM SYMBOL|DOVE OF PEACE|
KAABA|MOSQUE|SYNAGOGUE|MENORAH WITH NINE BRANCHES|BOWL OF HYGIEIA;1F550 CLOCK FACE *ONE OCLOCK|
TWO OCLOCK|THREE OCLOCK|FOUR OCLOCK|FIVE OCLOCK|SIX OCLOCK|SEVEN OCLOCK|EIGHT OCLOCK|NINE OCLOCK|
TEN OCLOCK|ELEVEN OCLOCK|TWELVE OCLOCK|ONE-THIRTY|TWO-THIRTY|THREE-THIRTY|FOUR-THIRTY|FIVE-THIRTY|
SIX-THIRTY|SEVEN-THIRTY|EIGHT-THIRTY|NINE-THIRTY|TEN-THIRTY|ELEVEN-THIRTY|TWELVE-THIRTY;
1F568 RIGHT *SPEAKER|SPEAKER WITH ONE SOUND WAVE|SPEAKER WITH THREE SOUND WAVES;1F56B *BULLHORN|
BULLHORN WITH SOUND WAVES|RINGING BELL|BOOK|CANDLE|MANTELPIECE CLOCK|BLACK SKULL AND CROSSBONES|
NO PIRACY|HOLE|MAN IN BUSINESS SUIT LEVITATING|SLEUTH OR SPY|DARK SUNGLASSES|SPIDER|SPIDER WEB|
JOYSTICK|MAN DANCING|LEFT HAND TELEPHONE RECEIVER|TELEPHONE RECEIVER WITH PAGE|
RIGHT HAND TELEPHONE RECEIVER|WHITE TOUCHTONE TELEPHONE|BLACK TOUCHTONE TELEPHONE|
TELEPHONE ON TOP OF MODEM|CLAMSHELL MOBILE PHONE|BACK OF ENVELOPE|STAMPED ENVELOPE|
ENVELOPE WITH LIGHTNING|FLYING ENVELOPE|PEN OVER STAMPED ENVELOPE|LINKED PAPERCLIPS|BLACK PUSHPIN;
1F589 LOWER LEFT *PENCIL|BALLPOINT PEN|FOUNTAIN PEN|PAINTBRUSH|CRAYON;1F58E *LEFT WRITING HAND|
TURNED OK HAND SIGN|RAISED HAND WITH FINGERS SPLAYED;1F591 REVERSED *
RAISED HAND WITH FINGERS SPLAYED|THUMBS UP SIGN|THUMBS DOWN SIGN|VICTORY HAND|
HAND WITH MIDDLE FINGER EXTENDED;1F596 *RAISED HAND WITH PART BETWEEN MIDDLE AND RING FINGERS|
WHITE DOWN POINTING LEFT HAND INDEX;1F598 SIDEWAYS *WHITE LEFT POINTING INDEX|
WHITE RIGHT POINTING INDEX|BLACK LEFT POINTING INDEX|BLACK RIGHT POINTING INDEX;1F59C BLACK *
LEFT POINTING BACKHAND INDEX|RIGHT POINTING BACKHAND INDEX;1F59E SIDEWAYS *
WHITE UP POINTING INDEX|WHITE DOWN POINTING INDEX|BLACK UP POINTING INDEX|
BLACK DOWN POINTING INDEX;1F5A2 BLACK *UP POINTING BACKHAND INDEX|DOWN POINTING BACKHAND INDEX|
HEART;1F5A5 *DESKTOP COMPUTER|KEYBOARD AND MOUSE|THREE NETWORKED COMPUTERS|PRINTER|
POCKET CALCULATOR|BLACK HARD SHELL FLOPPY DISK|WHITE HARD SHELL FLOPPY DISK|
SOFT SHELL FLOPPY DISK|TAPE CARTRIDGE|WIRED KEYBOARD|ONE BUTTON MOUSE|TWO BUTTON MOUSE|
THREE BUTTON MOUSE|TRACKBALL|OLD PERSONAL COMPUTER|HARD DISK|SCREEN|PRINTER ICON|FAX ICON|
OPTICAL DISC ICON;1F5B9 DOCUMENT WITH *TEXT|TEXT AND PICTURE|PICTURE;1F5BC FRAME WITH *PICTURE|
TILES|AN X;1F5BF *BLACK FOLDER|FOLDER|OPEN FOLDER|CARD INDEX DIVIDERS|CARD FILE BOX|FILE CABINET|
EMPTY NOTE|EMPTY NOTE PAGE|EMPTY NOTE PAD|NOTE|NOTE PAGE|NOTE PAD|EMPTY DOCUMENT|EMPTY PAGE|
EMPTY PAGES|DOCUMENT|PAGE|PAGES|WASTEBASKET|SPIRAL NOTE PAD|SPIRAL CALENDAR PAD|DESKTOP WINDOW|
MINIMIZE|MAXIMIZE|OVERLAP|CLOCKWISE RIGHT AND LEFT SEMICIRCLE ARROWS|CANCELLATION X|
INCREASE FONT SIZE SYMBOL|DECREASE FONT SIZE SYMBOL|COMPRESSION|OLD KEY|ROLLED-UP NEWSPAPER|
PAGE WITH CIRCLED TEXT|STOCK CHART|DAGGER KNIFE|LIPS|SPEAKING HEAD IN SILHOUETTE;
1F5E4 THREE RAYS *ABOVE|BELOW|LEFT|RIGHT;1F5E8 *LEFT SPEECH BUBBLE|RIGHT SPEECH BUBBLE|
TWO SPEECH BUBBLES|THREE SPEECH BUBBLES|LEFT THOUGHT BUBBLE|RIGHT THOUGHT BUBBLE|
LEFT ANGER BUBBLE|RIGHT ANGER BUBBLE|MOOD BUBBLE;1F5F1 LIGHTNING *MOOD BUBBLE|MOOD;1F5F3 BALLOT *
BOX WITH BALLOT|SCRIPT X|BOX WITH SCRIPT X|BOLD SCRIPT X|BOX WITH BOLD SCRIPT X;1F5F8 *
LIGHT CHECK MARK|BALLOT BOX WITH BOLD CHECK|WORLD MAP|MOUNT FUJI|TOKYO TOWER|STATUE OF LIBERTY|
SILHOUETTE OF JAPAN|MOYAI;
"

end ArrowMachine.Text.Name
