/-!
Names of characters: scripts and signs from the Glagolitic to the Katakana and Bopomofo ones (U+2C00
to U+33FF).
-/
namespace ArrowMachine.Text.Name

/-- The runs of these names, in the form that `codeIn?` reads. -/
def eastAsian : String := "
2C00 GLAGOLITIC CAPITAL LETTER *AZU|BUKY|VEDE|GLAGOLI|DOBRO|YESTU|ZHIVETE|DZELO|ZEMLJA|IZHE|
INITIAL IZHE|I|DJERVI|KAKO|LJUDIJE|MYSLITE|NASHI|ONU|POKOJI|RITSI|SLOVO|TVRIDO|UKU|FRITU|HERU|OTU|
PE|SHTA|TSI|CHRIVI|SHA|YERU|YERI|YATI|SPIDERY HA|YU|SMALL YUS|SMALL YUS WITH TAIL|YO|
IOTATED SMALL YUS|BIG YUS|IOTATED BIG YUS|FITA|IZHITSA|SHTAPIC|TROKUTASTI A|LATINATE MYSLITE|
CAUDATE CHRIVI;2C30 GLAGOLITIC SMALL LETTER *AZU|BUKY|VEDE|GLAGOLI|DOBRO|YESTU|ZHIVETE|DZELO|
ZEMLJA|IZHE|INITIAL IZHE|I|DJERVI|KAKO|LJUDIJE|MYSLITE|NASHI|ONU|POKOJI|RITSI|SLOVO|TVRIDO|UKU|
FRITU|HERU|OTU|PE|SHTA|TSI|CHRIVI|SHA|YERU|YERI|YATI|SPIDERY HA|YU|SMALL YUS|SMALL YUS WITH TAIL|
YO|IOTATED SMALL YUS|BIG YUS|IOTATED BIG YUS|FITA|IZHITSA|SHTAPIC|TROKUTASTI A|LATINATE MYSLITE|
CAUDATE CHRIVI;2C60 LATIN *CAPITAL LETTER L WITH DOUBLE BAR|SMALL LETTER L WITH DOUBLE BAR;
2C62 LATIN CAPITAL LETTER *L WITH MIDDLE TILDE|P WITH STROKE|R WITH TAIL;2C65 LATIN *
SMALL LETTER A WITH STROKE|SMALL LETTER T WITH DIAGONAL STROKE|CAPITAL LETTER H WITH DESCENDER|
SMALL LETTER H WITH DESCENDER|CAPITAL LETTER K WITH DESCENDER|SMALL LETTER K WITH DESCENDER|
CAPITAL LETTER Z WITH DESCENDER|SMALL LETTER Z WITH DESCENDER;2C6D LATIN CAPITAL LETTER *ALPHA|
M WITH HOOK|TURNED A|TURNED ALPHA;2C71 LATIN *SMALL LETTER V WITH RIGHT HOOK|
CAPITAL LETTER W WITH HOOK|SMALL LETTER W WITH HOOK|SMALL LETTER V WITH CURL|
CAPITAL LETTER HALF H;2C76 LATIN SMALL LETTER *HALF H|TAILLESS PHI|E WITH NOTCH|
TURNED R WITH TAIL|O WITH LOW RING INSIDE;2C7B *LATIN LETTER SMALL CAPITAL TURNED E|
LATIN SUBSCRIPT SMALL LETTER J|MODIFIER LETTER CAPITAL V;2C7E LATIN CAPITAL LETTER *
S WITH SWASH TAIL|Z WITH SWASH TAIL;2C80 COPTIC *CAPITAL LETTER ALFA|SMALL LETTER ALFA|
CAPITAL LETTER VIDA|SMALL LETTER VIDA|CAPITAL LETTER GAMMA|SMALL LETTER GAMMA|
CAPITAL LETTER DALDA|SMALL LETTER DALDA|CAPITAL LETTER EIE|SMALL LETTER EIE|CAPITAL LETTER SOU|
SMALL LETTER SOU|CAPITAL LETTER ZATA|SMALL LETTER ZATA|CAPITAL LETTER HATE|SMALL LETTER HATE|
CAPITAL LETTER THETHE|SMALL LETTER THETHE|CAPITAL LETTER IAUDA|SMALL LETTER IAUDA|
CAPITAL LETTER KAPA|SMALL LETTER KAPA|CAPITAL LETTER LAULA|SMALL LETTER LAULA|CAPITAL LETTER MI|
SMALL LETTER MI|CAPITAL LETTER NI|SMALL LETTER NI|CAPITAL LETTER KSI|SMALL LETTER KSI|
CAPITAL LETTER O|SMALL LETTER O|CAPITAL LETTER PI|SMALL LETTER PI|CAPITAL LETTER RO|
SMALL LETTER RO|CAPITAL LETTER SIMA|SMALL LETTER SIMA|CAPITAL LETTER TAU|SMALL LETTER TAU|
CAPITAL LETTER UA|SMALL LETTER UA|CAPITAL LETTER FI|SMALL LETTER FI|CAPITAL LETTER KHI|
SMALL LETTER KHI|CAPITAL LETTER PSI|SMALL LETTER PSI|CAPITAL LETTER OOU|SMALL LETTER OOU|
CAPITAL LETTER DIALECT-P ALEF|SMALL LETTER DIALECT-P ALEF|CAPITAL LETTER OLD COPTIC AIN|
SMALL LETTER OLD COPTIC AIN|CAPITAL LETTER CRYPTOGRAMMIC EIE|SMALL LETTER CRYPTOGRAMMIC EIE|
CAPITAL LETTER DIALECT-P KAPA|SMALL LETTER DIALECT-P KAPA|CAPITAL LETTER DIALECT-P NI|
SMALL LETTER DIALECT-P NI|CAPITAL LETTER CRYPTOGRAMMIC NI|SMALL LETTER CRYPTOGRAMMIC NI|
CAPITAL LETTER OLD COPTIC OOU|SMALL LETTER OLD COPTIC OOU|CAPITAL LETTER SAMPI|SMALL LETTER SAMPI|
CAPITAL LETTER CROSSED SHEI|SMALL LETTER CROSSED SHEI|CAPITAL LETTER OLD COPTIC SHEI|
SMALL LETTER OLD COPTIC SHEI|CAPITAL LETTER OLD COPTIC ESH|SMALL LETTER OLD COPTIC ESH|
CAPITAL LETTER AKHMIMIC KHEI|SMALL LETTER AKHMIMIC KHEI|CAPITAL LETTER DIALECT-P HORI|
SMALL LETTER DIALECT-P HORI|CAPITAL LETTER OLD COPTIC HORI|SMALL LETTER OLD COPTIC HORI|
CAPITAL LETTER OLD COPTIC HA|SMALL LETTER OLD COPTIC HA|CAPITAL LETTER L-SHAPED HA|
SMALL LETTER L-SHAPED HA|CAPITAL LETTER OLD COPTIC HEI|SMALL LETTER OLD COPTIC HEI|
CAPITAL LETTER OLD COPTIC HAT|SMALL LETTER OLD COPTIC HAT|CAPITAL LETTER OLD COPTIC GANGIA|
SMALL LETTER OLD COPTIC GANGIA|CAPITAL LETTER OLD COPTIC DJA|SMALL LETTER OLD COPTIC DJA|
CAPITAL LETTER OLD COPTIC SHIMA|SMALL LETTER OLD COPTIC SHIMA|CAPITAL LETTER OLD NUBIAN SHIMA|
SMALL LETTER OLD NUBIAN SHIMA|CAPITAL LETTER OLD NUBIAN NGI|SMALL LETTER OLD NUBIAN NGI|
CAPITAL LETTER OLD NUBIAN NYI|SMALL LETTER OLD NUBIAN NYI|CAPITAL LETTER OLD NUBIAN WAU|
SMALL LETTER OLD NUBIAN WAU;2CE4 COPTIC SYMBOL *KAI|MI RO|PI RO|STAUROS|TAU RO|KHI RO|SHIMA SIMA;
2CEB COPTIC *CAPITAL LETTER CRYPTOGRAMMIC SHEI|SMALL LETTER CRYPTOGRAMMIC SHEI|
CAPITAL LETTER CRYPTOGRAMMIC GANGIA|SMALL LETTER CRYPTOGRAMMIC GANGIA|COMBINING NI ABOVE|
COMBINING SPIRITUS ASPER|COMBINING SPIRITUS LENIS|CAPITAL LETTER BOHAIRIC KHEI|
SMALL LETTER BOHAIRIC KHEI;2CF9 COPTIC OLD NUBIAN *FULL STOP|DIRECT QUESTION MARK|
INDIRECT QUESTION MARK|VERSE DIVIDER;2CFD COPTIC *FRACTION ONE HALF|FULL STOP|
MORPHOLOGICAL DIVIDER;2D00 GEORGIAN SMALL LETTER *AN|BAN|GAN|DON|EN|VIN|ZEN|TAN|IN|KAN|LAS|MAN|
NAR|ON|PAR|ZHAR|RAE|SAN|TAR|UN|PHAR|KHAR|GHAN|QAR|SHIN|CHIN|CAN|JIL|CIL|CHAR|XAN|JHAN|HAE|HE|HIE|
WE|HAR|HOE;2D27 GEORGIAN SMALL LETTER YN*;2D2D GEORGIAN SMALL LETTER AEN*;2D30 TIFINAGH LETTER *
YA|YAB|YABH|YAG|YAGHH|BERBER ACADEMY YAJ|YAJ|YAD|YADH|YADD|YADDH|YEY|YAF|YAK|TUAREG YAK|YAKHH|YAH|
BERBER ACADEMY YAH|TUAREG YAH|YAHH|YAA|YAKH|TUAREG YAKH|YAQ|TUAREG YAQ|YI|YAZH|AHAGGAR YAZH|
TUAREG YAZH|YAL|YAM|YAN|TUAREG YAGN|TUAREG YANG|YAP|YU|YAR|YARR|YAGH|TUAREG YAGH|AYER YAGH|YAS|
YASS|YASH|YAT|YATH|YACH|YATT|YAV|YAW|YAY|YAZ|TAWELLEMET YAZ|YAZZ|YE|YO;2D6F TIFINAGH *
MODIFIER LETTER LABIALIZATION MARK|SEPARATOR MARK;2D7F TIFINAGH CONSONANT JOINER*;
2D80 ETHIOPIC SYLLABLE *LOA|MOA|ROA|SOA|SHOA|BOA|TOA|COA|NOA|NYOA|GLOTTAL OA|ZOA|DOA|DDOA|JOA|
THOA|CHOA|PHOA|POA|GGWA|GGWI|GGWEE|GGWE;2DA0 ETHIOPIC SYLLABLE *SSA|SSU|SSI|SSAA|SSEE|SSE|SSO;
2DA8 ETHIOPIC SYLLABLE *CCA|CCU|CCI|CCAA|CCEE|CCE|CCO;2DB0 ETHIOPIC SYLLABLE *ZZA|ZZU|ZZI|ZZAA|
ZZEE|ZZE|ZZO;2DB8 ETHIOPIC SYLLABLE *CCHA|CCHU|CCHI|CCHAA|CCHEE|CCHE|CCHO;2DC0 ETHIOPIC SYLLABLE *
QYA|QYU|QYI|QYAA|QYEE|QYE|QYO;2DC8 ETHIOPIC SYLLABLE *KYA|KYU|KYI|KYAA|KYEE|KYE|KYO;
2DD0 ETHIOPIC SYLLABLE *XYA|XYU|XYI|XYAA|XYEE|XYE|XYO;2DD8 ETHIOPIC SYLLABLE *GYA|GYU|GYI|GYAA|
GYEE|GYE|GYO;2DE0 COMBINING CYRILLIC LETTER *BE|VE|GHE|DE|ZHE|ZE|KA|EL|EM|EN|O|PE|ER|ES|TE|HA|TSE|
CHE|SHA|SHCHA|FITA|ES-TE|A|IE|DJERV|MONOGRAPH UK|YAT|YU|IOTIFIED A|LITTLE YUS|BIG YUS|
IOTIFIED BIG YUS;2E00 RIGHT ANGLE *SUBSTITUTION MARKER|DOTTED SUBSTITUTION MARKER;2E02 *
LEFT SUBSTITUTION BRACKET|RIGHT SUBSTITUTION BRACKET|LEFT DOTTED SUBSTITUTION BRACKET|
RIGHT DOTTED SUBSTITUTION BRACKET|RAISED INTERPOLATION MARKER|RAISED DOTTED INTERPOLATION MARKER|
DOTTED TRANSPOSITION MARKER|LEFT TRANSPOSITION BRACKET|RIGHT TRANSPOSITION BRACKET|RAISED SQUARE|
LEFT RAISED OMISSION BRACKET|RIGHT RAISED OMISSION BRACKET|EDITORIAL CORONIS|PARAGRAPHOS|
FORKED PARAGRAPHOS|REVERSED FORKED PARAGRAPHOS|HYPODIASTOLE|DOTTED OBELOS|DOWNWARDS ANCORA|
UPWARDS ANCORA|DOTTED RIGHT-POINTING ANGLE|DOUBLE OBLIQUE HYPHEN|INVERTED INTERROBANG|PALM BRANCH|
HYPHEN WITH DIAERESIS|TILDE WITH RING ABOVE|LEFT LOW PARAPHRASE BRACKET|
RIGHT LOW PARAPHRASE BRACKET;2E1E TILDE WITH DOT *ABOVE|BELOW;2E20 *LEFT VERTICAL BAR WITH QUILL|
RIGHT VERTICAL BAR WITH QUILL|TOP LEFT HALF BRACKET|TOP RIGHT HALF BRACKET|
BOTTOM LEFT HALF BRACKET|BOTTOM RIGHT HALF BRACKET|LEFT SIDEWAYS U BRACKET|
RIGHT SIDEWAYS U BRACKET|LEFT DOUBLE PARENTHESIS|RIGHT DOUBLE PARENTHESIS|
TWO DOTS OVER ONE DOT PUNCTUATION|ONE DOT OVER TWO DOTS PUNCTUATION|SQUARED FOUR DOT PUNCTUATION|
FIVE DOT MARK|REVERSED QUESTION MARK|VERTICAL TILDE|RING POINT|WORD SEPARATOR MIDDLE DOT|
TURNED COMMA|RAISED DOT|RAISED COMMA|TURNED SEMICOLON|DAGGER WITH LEFT GUARD|
DAGGER WITH RIGHT GUARD|TURNED DAGGER|TOP HALF SECTION SIGN|TWO-EM DASH|THREE-EM DASH|
STENOGRAPHIC FULL STOP|VERTICAL SIX DOTS|WIGGLY VERTICAL LINE|CAPITULUM|DOUBLE HYPHEN|
REVERSED COMMA|DOUBLE LOW-REVERSED-9 QUOTATION MARK|DASH WITH LEFT UPTURN|DOUBLE SUSPENSION MARK|
INVERTED LOW KAVYKA|INVERTED LOW KAVYKA WITH KAVYKA ABOVE|LOW KAVYKA|LOW KAVYKA WITH DOT|
DOUBLE STACKED COMMA|DOTTED SOLIDUS|TRIPLE DAGGER|MEDIEVAL COMMA|PARAGRAPHUS MARK|
PUNCTUS ELEVATUS MARK|CORNISH VERSE DIVIDER;2E50 CROSS PATTY WITH *RIGHT CROSSBAR|LEFT CROSSBAR;
2E52 *TIRONIAN SIGN CAPITAL ET|MEDIEVAL EXCLAMATION MARK|MEDIEVAL QUESTION MARK|
LEFT SQUARE BRACKET WITH STROKE|RIGHT SQUARE BRACKET WITH STROKE|
LEFT SQUARE BRACKET WITH DOUBLE STROKE|RIGHT SQUARE BRACKET WITH DOUBLE STROKE|
TOP HALF LEFT PARENTHESIS|TOP HALF RIGHT PARENTHESIS|BOTTOM HALF LEFT PARENTHESIS|
BOTTOM HALF RIGHT PARENTHESIS|OBLIQUE HYPHEN;2E80 CJK RADICAL *REPEAT|CLIFF|SECOND ONE|SECOND TWO|
SECOND THREE|PERSON|BOX|TABLE|KNIFE ONE|KNIFE TWO|DIVINATION|SEAL|SMALL ONE|SMALL TWO|LAME ONE|
LAME TWO|LAME THREE|LAME FOUR|SNAKE|THREAD|SNOUT ONE|SNOUT TWO|HEART ONE|HEART TWO|HAND|RAP;
2E9B CJK RADICAL *CHOKE|SUN|MOON|DEATH|MOTHER|CIVILIAN|WATER ONE|WATER TWO|FIRE|PAW ONE|PAW TWO|
SIMPLIFIED HALF TREE TRUNK|COW|DOG|JADE|BOLT OF CLOTH|EYE|SPIRIT ONE|SPIRIT TWO|BAMBOO|SILK|
C-SIMPLIFIED SILK|NET ONE|NET TWO|NET THREE|NET FOUR|MESH|SHEEP|RAM|EWE|OLD|BRUSH ONE|BRUSH TWO|
MEAT|MORTAR|GRASS ONE|GRASS TWO|GRASS THREE|TIGER|CLOTHES|WEST ONE|WEST TWO|C-SIMPLIFIED SEE|
SIMPLIFIED HORN|HORN|C-SIMPLIFIED SPEECH|C-SIMPLIFIED SHELL|FOOT|C-SIMPLIFIED CART|
SIMPLIFIED WALK|WALK ONE|WALK TWO|CITY|C-SIMPLIFIED GOLD|LONG ONE|LONG TWO|C-SIMPLIFIED LONG|
C-SIMPLIFIED GATE|MOUND ONE|MOUND TWO|RAIN|BLUE;2ED9 CJK RADICAL C-SIMPLIFIED *TANNED LEATHER|
LEAF|WIND|FLY;2EDD CJK RADICAL *EAT ONE|EAT TWO|EAT THREE|C-SIMPLIFIED EAT|HEAD|
C-SIMPLIFIED HORSE|BONE|GHOST|C-SIMPLIFIED FISH|C-SIMPLIFIED BIRD|C-SIMPLIFIED SALT|
SIMPLIFIED WHEAT|SIMPLIFIED YELLOW|C-SIMPLIFIED FROG|J-SIMPLIFIED EVEN|C-SIMPLIFIED EVEN|
J-SIMPLIFIED TOOTH|C-SIMPLIFIED TOOTH|J-SIMPLIFIED DRAGON|C-SIMPLIFIED DRAGON|TURTLE|
J-SIMPLIFIED TURTLE|C-SIMPLIFIED TURTLE;2F00 KANGXI RADICAL *ONE|LINE|DOT|SLASH|SECOND|HOOK|TWO|
LID|MAN|LEGS|ENTER|EIGHT|DOWN BOX|COVER|ICE|TABLE|OPEN BOX|KNIFE|POWER|WRAP|SPOON|RIGHT OPEN BOX|
HIDING ENCLOSURE|TEN|DIVINATION|SEAL|CLIFF|PRIVATE|AGAIN|MOUTH|ENCLOSURE|EARTH|SCHOLAR|GO|
GO SLOWLY|EVENING|BIG|WOMAN|CHILD|ROOF|INCH|SMALL|LAME|CORPSE|SPROUT|MOUNTAIN|RIVER|WORK|ONESELF|
TURBAN|DRY|SHORT THREAD|DOTTED CLIFF|LONG STRIDE|TWO HANDS|SHOOT|BOW|SNOUT|BRISTLE|STEP|HEART|
HALBERD|DOOR|HAND|BRANCH|RAP|SCRIPT|DIPPER|AXE|SQUARE|NOT|SUN|SAY|MOON|TREE|LACK|STOP|DEATH|
WEAPON|DO NOT|COMPARE|FUR|CLAN|STEAM|WATER|FIRE|CLAW|FATHER|DOUBLE X|HALF TREE TRUNK|SLICE|FANG|
COW|DOG|PROFOUND|JADE|MELON|TILE|SWEET|LIFE|USE|FIELD|BOLT OF CLOTH|SICKNESS|DOTTED TENT|WHITE|
SKIN|DISH|EYE|SPEAR|ARROW|STONE|SPIRIT|TRACK|GRAIN|CAVE|STAND|BAMBOO|RICE|SILK|JAR|NET|SHEEP|
FEATHER|OLD|AND|PLOW|EAR|BRUSH|MEAT|MINISTER|SELF|ARRIVE|MORTAR|TONGUE|OPPOSE|BOAT|STOPPING|COLOR|
GRASS|TIGER|INSECT|BLOOD|WALK ENCLOSURE|CLOTHES|WEST|SEE|HORN|SPEECH|VALLEY|BEAN|PIG|BADGER|SHELL|
RED|RUN|FOOT|BODY|CART|BITTER|MORNING|WALK|CITY|WINE|DISTINGUISH|VILLAGE|GOLD|LONG|GATE|MOUND|
SLAVE|SHORT TAILED BIRD|RAIN|BLUE|WRONG|FACE|LEATHER|TANNED LEATHER|LEEK|SOUND|LEAF|WIND|FLY|EAT|
HEAD|FRAGRANT|HORSE|BONE|TALL|HAIR|FIGHT|SACRIFICIAL WINE|CAULDRON|GHOST|FISH|BIRD|SALT|DEER|
WHEAT|HEMP|YELLOW|MILLET|BLACK|EMBROIDERY|FROG|TRIPOD|DRUM|RAT|NOSE|EVEN|TOOTH|DRAGON|TURTLE|
FLUTE;2FF0 IDEOGRAPHIC DESCRIPTION CHARACTER *LEFT TO RIGHT|ABOVE TO BELOW|
LEFT TO MIDDLE AND RIGHT|ABOVE TO MIDDLE AND BELOW|FULL SURROUND|SURROUND FROM ABOVE|
SURROUND FROM BELOW|SURROUND FROM LEFT|SURROUND FROM UPPER LEFT|SURROUND FROM UPPER RIGHT|
SURROUND FROM LOWER LEFT|OVERLAID;3000 IDEOGRAPHIC *SPACE|COMMA|FULL STOP;3003 *DITTO MARK|
JAPANESE INDUSTRIAL STANDARD SYMBOL;3005 IDEOGRAPHIC *ITERATION MARK|CLOSING MARK|NUMBER ZERO;
3008 *LEFT ANGLE BRACKET|RIGHT ANGLE BRACKET|LEFT DOUBLE ANGLE BRACKET|RIGHT DOUBLE ANGLE BRACKET|
LEFT CORNER BRACKET|RIGHT CORNER BRACKET|LEFT WHITE CORNER BRACKET|RIGHT WHITE CORNER BRACKET|
LEFT BLACK LENTICULAR BRACKET|RIGHT BLACK LENTICULAR BRACKET|POSTAL MARK|GETA MARK|
LEFT TORTOISE SHELL BRACKET|RIGHT TORTOISE SHELL BRACKET|LEFT WHITE LENTICULAR BRACKET|
RIGHT WHITE LENTICULAR BRACKET|LEFT WHITE TORTOISE SHELL BRACKET|
RIGHT WHITE TORTOISE SHELL BRACKET|LEFT WHITE SQUARE BRACKET|RIGHT WHITE SQUARE BRACKET|WAVE DASH|
REVERSED DOUBLE PRIME QUOTATION MARK|DOUBLE PRIME QUOTATION MARK|LOW DOUBLE PRIME QUOTATION MARK|
POSTAL MARK FACE;3021 HANGZHOU NUMERAL *ONE|TWO|THREE|FOUR|FIVE|SIX|SEVEN|EIGHT|NINE;
302A IDEOGRAPHIC *LEVEL TONE MARK|RISING TONE MARK|DEPARTING TONE MARK|ENTERING TONE MARK;302E *
HANGUL SINGLE DOT TONE MARK|HANGUL DOUBLE DOT TONE MARK|WAVY DASH;3031 VERTICAL KANA REPEAT *MARK|
WITH VOICED SOUND MARK|MARK UPPER HALF|WITH VOICED SOUND MARK UPPER HALF|MARK LOWER HALF;3036 *
CIRCLED POSTAL MARK|IDEOGRAPHIC TELEGRAPH LINE FEED SEPARATOR SYMBOL;3038 HANGZHOU NUMERAL *TEN|
TWENTY|THIRTY;303B *VERTICAL IDEOGRAPHIC ITERATION MARK|MASU MARK|PART ALTERNATION MARK;
303E IDEOGRAPHIC *VARIATION INDICATOR|HALF FILL SPACE;3041 HIRAGANA LETTER *SMALL A|A|SMALL I|I|
SMALL U|U|SMALL E|E|SMALL O|O|KA|GA|KI|GI|KU|GU|KE|GE|KO|GO|SA|ZA|SI|ZI|SU|ZU|SE|ZE|SO|ZO|TA|DA|
TI|DI|SMALL TU|TU|DU|TE|DE|TO|DO|NA|NI|NU|NE|NO|HA|BA|PA|HI|BI|PI|HU|BU|PU|HE|BE|PE|HO|BO|PO|MA|
MI|MU|ME|MO|SMALL YA|YA|SMALL YU|YU|SMALL YO|YO|RA|RI|RU|RE|RO|SMALL WA|WA|WI|WE|WO|N|VU|SMALL KA|
SMALL KE;3099 COMBINING KATAKANA-HIRAGANA *VOICED SOUND MARK|SEMI-VOICED SOUND MARK;
309B KATAKANA-HIRAGANA *VOICED SOUND MARK|SEMI-VOICED SOUND MARK;309D HIRAGANA *ITERATION MARK|
VOICED ITERATION MARK|DIGRAPH YORI;30A0 KATAKANA-HIRAGANA DOUBLE HYPHEN*;30A1 KATAKANA LETTER *
SMALL A|A|SMALL I|I|SMALL U|U|SMALL E|E|SMALL O|O|KA|GA|KI|GI|KU|GU|KE|GE|KO|GO|SA|ZA|SI|ZI|SU|ZU|
SE|ZE|SO|ZO|TA|DA|TI|DI|SMALL TU|TU|DU|TE|DE|TO|DO|NA|NI|NU|NE|NO|HA|BA|PA|HI|BI|PI|HU|BU|PU|HE|
BE|PE|HO|BO|PO|MA|MI|MU|ME|MO|SMALL YA|YA|SMALL YU|YU|SMALL YO|YO|RA|RI|RU|RE|RO|SMALL WA|WA|WI|
WE|WO|N|VU|SMALL KA|SMALL KE|VA|VI|VE|VO;30FB *KATAKANA MIDDLE DOT|
KATAKANA-HIRAGANA PROLONGED SOUND MARK;30FD KATAKANA *ITERATION MARK|VOICED ITERATION MARK|
DIGRAPH KOTO;3105 BOPOMOFO LETTER *B|P|M|F|D|T|N|L|G|K|H|J|Q|X|ZH|CH|SH|R|Z|C|S|A|O|E|EH|AI|EI|AU|
OU|AN|EN|ANG|ENG|ER|I|U|IU|V|NG|GN|IH|O WITH DOT ABOVE|NN;3131 HANGUL LETTER *KIYEOK|SSANGKIYEOK|
KIYEOK-SIOS|NIEUN|NIEUN-CIEUC|NIEUN-HIEUH|TIKEUT|SSANGTIKEUT|RIEUL|RIEUL-KIYEOK|RIEUL-MIEUM|
RIEUL-PIEUP|RIEUL-SIOS|RIEUL-THIEUTH|RIEUL-PHIEUPH|RIEUL-HIEUH|MIEUM|PIEUP|SSANGPIEUP|PIEUP-SIOS|
SIOS|SSANGSIOS|IEUNG|CIEUC|SSANGCIEUC|CHIEUCH|KHIEUKH|THIEUTH|PHIEUPH|HIEUH|A|AE|YA|YAE|EO|E|YEO|
YE|O|WA|WAE|OE|YO|U|WEO|WE|WI|YU|EU|YI|I;3164 HANGUL FILLER*;3165 HANGUL LETTER *SSANGNIEUN|
NIEUN-TIKEUT|NIEUN-SIOS|NIEUN-PANSIOS|RIEUL-KIYEOK-SIOS|RIEUL-TIKEUT|RIEUL-PIEUP-SIOS|
RIEUL-PANSIOS|RIEUL-YEORINHIEUH|MIEUM-PIEUP|MIEUM-SIOS|MIEUM-PANSIOS|KAPYEOUNMIEUM|PIEUP-KIYEOK|
PIEUP-TIKEUT|PIEUP-SIOS-KIYEOK|PIEUP-SIOS-TIKEUT|PIEUP-CIEUC|PIEUP-THIEUTH|KAPYEOUNPIEUP|
KAPYEOUNSSANGPIEUP|SIOS-KIYEOK|SIOS-NIEUN|SIOS-TIKEUT|SIOS-PIEUP|SIOS-CIEUC|PANSIOS|SSANGIEUNG|
YESIEUNG|YESIEUNG-SIOS|YESIEUNG-PANSIOS|KAPYEOUNPHIEUPH|SSANGHIEUH|YEORINHIEUH|YO-YA|YO-YAE|YO-I|
YU-YEO|YU-YE|YU-I|ARAEA|ARAEAE;3190 IDEOGRAPHIC ANNOTATION *LINKING MARK|REVERSE MARK|ONE MARK|
TWO MARK|THREE MARK|FOUR MARK|TOP MARK|MIDDLE MARK|BOTTOM MARK|FIRST MARK|SECOND MARK|THIRD MARK|
FOURTH MARK|HEAVEN MARK|EARTH MARK|MAN MARK;31A0 BOPOMOFO LETTER *BU|ZI|JI|GU|EE|ENN|OO|ONN|IR|
ANN|INN|UNN|IM|NGG|AINN|AUNN|AM|OM|ONG|INNN;31B4 BOPOMOFO FINAL LETTER *P|T|K|H;31B8 BOPOMOFO *
LETTER GH|LETTER LH|LETTER ZY|FINAL LETTER G;31BC BOPOMOFO LETTER *GW|KW|OE|AH;31C0 CJK STROKE *T|
WG|XG|BXG|SW|HZZ|HZG|HP|HZWG|SZWG|HZT|HZZP|HPWG|HZW|HZZZ|N|H|S|P|SP|D|HZ|HG|SZ|SWZ|ST|SG|PD|PZ|TN|
SZZ|SWG|HXWG|HZZZG|PG|Q;31F0 KATAKANA LETTER SMALL *KU|SI|SU|TO|NU|HA|HI|HU|HE|HO|MU|RA|RI|RU|RE|
RO;3200 PARENTHESIZED HANGUL *KIYEOK|NIEUN|TIKEUT|RIEUL|MIEUM|PIEUP|SIOS|IEUNG|CIEUC|CHIEUCH|
KHIEUKH|THIEUTH|PHIEUPH|HIEUH|KIYEOK A|NIEUN A|TIKEUT A|RIEUL A|MIEUM A|PIEUP A|SIOS A|IEUNG A|
CIEUC A|CHIEUCH A|KHIEUKH A|THIEUTH A|PHIEUPH A|HIEUH A|CIEUC U;
321D PARENTHESIZED KOREAN CHARACTER *OJEON|O HU;3220 PARENTHESIZED IDEOGRAPH *ONE|TWO|THREE|FOUR|
FIVE|SIX|SEVEN|EIGHT|NINE|TEN|MOON|FIRE|WATER|WOOD|METAL|EARTH|SUN|STOCK|HAVE|SOCIETY|NAME|
SPECIAL|FINANCIAL|CONGRATULATION|LABOR|REPRESENT|CALL|STUDY|SUPERVISE|ENTERPRISE|RESOURCE|
ALLIANCE|FESTIVAL|REST|SELF|REACH;3244 CIRCLED IDEOGRAPH *QUESTION|KINDERGARTEN|SCHOOL|KOTO;
3248 CIRCLED NUMBER *TEN ON BLACK SQUARE|TWENTY ON BLACK SQUARE|THIRTY ON BLACK SQUARE|
FORTY ON BLACK SQUARE|FIFTY ON BLACK SQUARE|SIXTY ON BLACK SQUARE|SEVENTY ON BLACK SQUARE|
EIGHTY ON BLACK SQUARE;3250 PARTNERSHIP SIGN*;3251 CIRCLED NUMBER TWENTY *ONE|TWO|THREE|FOUR|FIVE|
SIX|SEVEN|EIGHT|NINE;325A CIRCLED NUMBER THIRTY*;325B CIRCLED NUMBER THIRTY *ONE|TWO|THREE|FOUR|
FIVE;3260 CIRCLED HANGUL *KIYEOK|NIEUN|TIKEUT|RIEUL|MIEUM|PIEUP|SIOS|IEUNG|CIEUC|CHIEUCH|KHIEUKH|
THIEUTH|PHIEUPH|HIEUH|KIYEOK A|NIEUN A|TIKEUT A|RIEUL A|MIEUM A|PIEUP A|SIOS A|IEUNG A|CIEUC A|
CHIEUCH A|KHIEUKH A|THIEUTH A|PHIEUPH A|HIEUH A;327C CIRCLED KOREAN CHARACTER *CHAMKO|JUEUI;327E *
CIRCLED HANGUL IEUNG U|KOREAN STANDARD SYMBOL;3280 CIRCLED IDEOGRAPH *ONE|TWO|THREE|FOUR|FIVE|SIX|
SEVEN|EIGHT|NINE|TEN|MOON|FIRE|WATER|WOOD|METAL|EARTH|SUN|STOCK|HAVE|SOCIETY|NAME|SPECIAL|
FINANCIAL|CONGRATULATION|LABOR|SECRET|MALE|FEMALE|SUITABLE|EXCELLENT|PRINT|ATTENTION|ITEM|REST|
COPY|CORRECT|HIGH|CENTRE|LOW|LEFT|RIGHT|MEDICINE|RELIGION|STUDY|SUPERVISE|ENTERPRISE|RESOURCE|
ALLIANCE|NIGHT;32B1 CIRCLED NUMBER *THIRTY SIX|THIRTY SEVEN|THIRTY EIGHT|THIRTY NINE|FORTY;
32B6 CIRCLED NUMBER FORTY *ONE|TWO|THREE|FOUR|FIVE|SIX|SEVEN|EIGHT|NINE;32BF CIRCLED NUMBER FIFTY*
;32C0 IDEOGRAPHIC TELEGRAPH SYMBOL FOR *JANUARY|FEBRUARY|MARCH|APRIL|MAY|JUNE|JULY|AUGUST|
SEPTEMBER|OCTOBER|NOVEMBER|DECEMBER;32CC SQUARE *HG|ERG|EV;32CF LIMITED LIABILITY SIGN*;
32D0 CIRCLED KATAKANA *A|I|U|E|O|KA|KI|KU|KE|KO|SA|SI|SU|SE|SO|TA|TI|TU|TE|TO|NA|NI|NU|NE|NO|HA|
HI|HU|HE|HO|MA|MI|MU|ME|MO|YA|YU|YO|RA|RI|RU|RE|RO|WA|WI|WE|WO;32FF SQUARE *ERA NAME REIWA|APAATO|
ARUHUA|ANPEA|AARU|ININGU|INTI|UON|ESUKUUDO|EEKAA|ONSU|OOMU|KAIRI|KARATTO|KARORII|GARON|GANMA|GIGA|
GINII|KYURII|GIRUDAA|KIRO|KIROGURAMU|KIROMEETORU|KIROWATTO|GURAMU|GURAMUTON|KURUZEIRO|KUROONE|
KEESU|KORUNA|KOOPO|SAIKURU|SANTIIMU|SIRINGU|SENTI|SENTO|DAASU|DESI|DORU|TON|NANO|NOTTO|HAITU|
PAASENTO|PAATU|BAARERU|PIASUTORU|PIKURU|PIKO|BIRU|HUARADDO|HUIITO|BUSSYERU|HURAN|HEKUTAARU|PESO|
PENIHI|HERUTU|PENSU|PEEZI|BEETA|POINTO|BORUTO|HON|PONDO|HOORU|HOON|MAIKURO|MAIRU|MAHHA|MARUKU|
MANSYON|MIKURON|MIRI|MIRIBAARU|MEGA|MEGATON|MEETORU|YAADO|YAARU|YUAN|RITTORU|RIRA|RUPII|RUUBURU|
REMU|RENTOGEN|WATTO;3358 IDEOGRAPHIC TELEGRAPH SYMBOL FOR HOUR *ZERO|ONE|TWO|THREE|FOUR|FIVE|SIX|
SEVEN|EIGHT|NINE|TEN|ELEVEN|TWELVE|THIRTEEN|FOURTEEN|FIFTEEN|SIXTEEN|SEVENTEEN|EIGHTEEN|NINETEEN|
TWENTY|TWENTY-ONE|TWENTY-TWO|TWENTY-THREE|TWENTY-FOUR;3371 SQUARE *HPA|DA|AU|BAR|OV|PC|DM|
DM SQUARED|DM CUBED|IU|ERA NAME HEISEI|ERA NAME SYOUWA|ERA NAME TAISYOU|ERA NAME MEIZI|
CORPORATION|PA AMPS|NA|MU A|MA|KA|KB|MB|GB|CAL|KCAL|PF|NF|MU F|MU G|MG|KG|HZ|KHZ|MHZ|GHZ|THZ|MU L|
ML|DL|KL|FM|NM|MU M|MM|CM|KM|MM SQUARED|CM SQUARED|M SQUARED|KM SQUARED|MM CUBED|CM CUBED|M CUBED|
KM CUBED|M OVER S|M OVER S SQUARED|PA|KPA|MPA|GPA|RAD|RAD OVER S|RAD OVER S SQUARED|PS|NS|MU S|MS|
PV|NV|MU V|MV|KV|MV MEGA|PW|NW|MU W|MW|KW|MW MEGA|K OHM|M OHM|AM|BQ|CC|CD|C OVER KG|CO|DB|GY|HA|
HP|IN|KK|KM CAPITAL|KT|LM|LN|LOG|LX|MB SMALL|MIL|MOL|PH|PM|PPM|PR|SR|SV|WB|V OVER M|A OVER M;
33E0 IDEOGRAPHIC TELEGRAPH SYMBOL FOR DAY *ONE|TWO|THREE|FOUR|FIVE|SIX|SEVEN|EIGHT|NINE|TEN|
ELEVEN|TWELVE|THIRTEEN|FOURTEEN|FIFTEEN|SIXTEEN|SEVENTEEN|EIGHTEEN|NINETEEN|TWENTY|TWENTY-ONE|
TWENTY-TWO|TWENTY-THREE|TWENTY-FOUR|TWENTY-FIVE|TWENTY-SIX|TWENTY-SEVEN|TWENTY-EIGHT|TWENTY-NINE|
THIRTY|THIRTY-ONE;33FF SQUARE GAL*;
"

end ArrowMachine.Text.Name
