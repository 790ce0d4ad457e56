/-!
Names of characters: scripts of South Asia, from Devanagari to the Tibetan one (U+0900 to U+0FDA).
-/
namespace ArrowMachine.Text.Name

/-- The runs of these names, in the form that `codeIn?` reads. -/
def southAsian : String := "
900 DEVANAGARI SIGN *INVERTED CANDRABINDU|CANDRABINDU|ANUSVARA|VISARGA;904 DEVANAGARI LETTER *
SHORT A|A|AA|I|II|U|UU|VOCALIC R|VOCALIC L|CANDRA E|SHORT E|E|AI|CANDRA O|SHORT O|O|AU|KA|KHA|GA|
GHA|NGA|CA|CHA|JA|JHA|NYA|TTA|TTHA|DDA|DDHA|NNA|TA|THA|DA|DHA|NA|NNNA|PA|PHA|BA|BHA|MA|YA|RA|RRA|
LA|LLA|LLLA|VA|SHA|SSA|SA|HA;93A DEVANAGARI *VOWEL SIGN OE|VOWEL SIGN OOE|SIGN NUKTA|
SIGN AVAGRAHA;93E DEVANAGARI VOWEL SIGN *AA|I|II|U|UU|VOCALIC R|VOCALIC RR|CANDRA E|SHORT E|E|AI|
CANDRA O|SHORT O|O|AU;94D DEVANAGARI *SIGN VIRAMA|VOWEL SIGN PRISHTHAMATRA E|VOWEL SIGN AW|OM|
STRESS SIGN UDATTA|STRESS SIGN ANUDATTA|GRAVE ACCENT|ACUTE ACCENT;955 DEVANAGARI VOWEL SIGN *
CANDRA LONG E|UE|UUE;958 DEVANAGARI LETTER *QA|KHHA|GHHA|ZA|DDDHA|RHA|FA|YYA|VOCALIC RR|
VOCALIC LL;962 DEVANAGARI VOWEL SIGN VOCALIC *L|LL;964 DEVANAGARI *DANDA|DOUBLE DANDA;
966 DEVANAGARI DIGIT *ZERO|ONE|TWO|THREE|FOUR|FIVE|SIX|SEVEN|EIGHT|NINE;970 DEVANAGARI *
ABBREVIATION SIGN|SIGN HIGH SPACING DOT;972 DEVANAGARI LETTER *CANDRA A|OE|OOE|AW|UE|UUE|
MARWARI DDA|ZHA|HEAVY YA|GGA|JJA|GLOTTAL STOP|DDDA|BBA;980 BENGALI *ANJI|SIGN CANDRABINDU|
SIGN ANUSVARA|SIGN VISARGA;985 BENGALI LETTER *A|AA|I|II|U|UU|VOCALIC R|VOCALIC L;
98F BENGALI LETTER *E|AI;993 BENGALI LETTER *O|AU|KA|KHA|GA|GHA|NGA|CA|CHA|JA|JHA|NYA|TTA|TTHA|
DDA|DDHA|NNA|TA|THA|DA|DHA|NA;9AA BENGALI LETTER *PA|PHA|BA|BHA|MA|YA|RA;9B2 BENGALI LETTER LA*;
9B6 BENGALI LETTER *SHA|SSA|SA|HA;9BC BENGALI SIGN *NUKTA|AVAGRAHA;9BE BENGALI VOWEL SIGN *AA|I|
II|U|UU|VOCALIC R|VOCALIC RR;9C7 BENGALI VOWEL SIGN *E|AI;9CB BENGALI *VOWEL SIGN O|VOWEL SIGN AU|
SIGN VIRAMA|LETTER KHANDA TA;9D7 BENGALI AU LENGTH MARK*;9DC BENGALI LETTER *RRA|RHA;
9DF BENGALI LETTER *YYA|VOCALIC RR|VOCALIC LL;9E2 BENGALI VOWEL SIGN VOCALIC *L|LL;
9E6 BENGALI DIGIT *ZERO|ONE|TWO|THREE|FOUR|FIVE|SIX|SEVEN|EIGHT|NINE;9F0 BENGALI LETTER RA WITH *
MIDDLE DIAGONAL|LOWER DIAGONAL;9F2 BENGALI RUPEE *MARK|SIGN;9F4 BENGALI CURRENCY NUMERATOR *ONE|
TWO|THREE|FOUR|ONE LESS THAN THE DENOMINATOR;9F9 BENGALI *CURRENCY DENOMINATOR SIXTEEN|ISSHAR|
GANDA MARK|LETTER VEDIC ANUSVARA|ABBREVIATION SIGN|SANDHI MARK;A01 GURMUKHI SIGN *ADAK BINDI|
BINDI|VISARGA;A05 GURMUKHI LETTER *A|AA|I|II|U|UU;A0F GURMUKHI LETTER *EE|AI;A13 GURMUKHI LETTER *
OO|AU|KA|KHA|GA|GHA|NGA|CA|CHA|JA|JHA|NYA|TTA|TTHA|DDA|DDHA|NNA|TA|THA|DA|DHA|NA;
A2A GURMUKHI LETTER *PA|PHA|BA|BHA|MA|YA|RA;A32 GURMUKHI LETTER *LA|LLA;A35 GURMUKHI LETTER *VA|
SHA;A38 GURMUKHI LETTER *SA|HA;A3C GURMUKHI SIGN NUKTA*;A3E GURMUKHI VOWEL SIGN *AA|I|II|U|UU;
A47 GURMUKHI VOWEL SIGN *EE|AI;A4B GURMUKHI *VOWEL SIGN OO|VOWEL SIGN AU|SIGN VIRAMA;
A51 GURMUKHI SIGN UDAAT*;A59 GURMUKHI LETTER *KHHA|GHHA|ZA|RRA;A5E GURMUKHI LETTER FA*;
A66 GURMUKHI DIGIT *ZERO|ONE|TWO|THREE|FOUR|FIVE|SIX|SEVEN|EIGHT|NINE;A70 GURMUKHI *TIPPI|ADDAK|
IRI|URA|EK ONKAR|SIGN YAKASH|ABBREVIATION SIGN;A81 GUJARATI SIGN *CANDRABINDU|ANUSVARA|VISARGA;
A85 GUJARATI LETTER *A|AA|I|II|U|UU|VOCALIC R|VOCALIC L;A8D GUJARATI VOWEL CANDRA E*;
A8F GUJARATI *LETTER E|LETTER AI|VOWEL CANDRA O;A93 GUJARATI LETTER *O|AU|KA|KHA|GA|GHA|NGA|CA|
CHA|JA|JHA|NYA|TTA|TTHA|DDA|DDHA|NNA|TA|THA|DA|DHA|NA;AAA GUJARATI LETTER *PA|PHA|BA|BHA|MA|YA|RA;
AB2 GUJARATI LETTER *LA|LLA;AB5 GUJARATI LETTER *VA|SHA|SSA|SA|HA;ABC GUJARATI SIGN *NUKTA|
AVAGRAHA;ABE GUJARATI VOWEL SIGN *AA|I|II|U|UU|VOCALIC R|VOCALIC RR|CANDRA E;
AC7 GUJARATI VOWEL SIGN *E|AI|CANDRA O;ACB GUJARATI *VOWEL SIGN O|VOWEL SIGN AU|SIGN VIRAMA;
AD0 GUJARATI OM*;AE0 GUJARATI LETTER VOCALIC *RR|LL;AE2 GUJARATI VOWEL SIGN VOCALIC *L|LL;
AE6 GUJARATI DIGIT *ZERO|ONE|TWO|THREE|FOUR|FIVE|SIX|SEVEN|EIGHT|NINE;AF0 GUJARATI *
ABBREVIATION SIGN|RUPEE SIGN;AF9 GUJARATI LETTER ZHA*;AFA GUJARATI SIGN *SUKUN|SHADDA|MADDAH|
THREE-DOT NUKTA ABOVE|CIRCLE NUKTA ABOVE|TWO-CIRCLE NUKTA ABOVE;B01 ORIYA SIGN *CANDRABINDU|
ANUSVARA|VISARGA;B05 ORIYA LETTER *A|AA|I|II|U|UU|VOCALIC R|VOCALIC L;B0F ORIYA LETTER *E|AI;
B13 ORIYA LETTER *O|AU|KA|KHA|GA|GHA|NGA|CA|CHA|JA|JHA|NYA|TTA|TTHA|DDA|DDHA|NNA|TA|THA|DA|DHA|NA;
B2A ORIYA LETTER *PA|PHA|BA|BHA|MA|YA|RA;B32 ORIYA LETTER *LA|LLA;B35 ORIYA LETTER *VA|SHA|SSA|SA|
HA;B3C ORIYA SIGN *NUKTA|AVAGRAHA;B3E ORIYA VOWEL SIGN *AA|I|II|U|UU|VOCALIC R|VOCALIC RR;
B47 ORIYA VOWEL SIGN *E|AI;B4B ORIYA *VOWEL SIGN O|VOWEL SIGN AU|SIGN VIRAMA;B55 ORIYA *
SIGN OVERLINE|AI LENGTH MARK|AU LENGTH MARK;B5C ORIYA LETTER *RRA|RHA;B5F ORIYA LETTER *YYA|
VOCALIC RR|VOCALIC LL;B62 ORIYA VOWEL SIGN VOCALIC *L|LL;B66 ORIYA DIGIT *ZERO|ONE|TWO|THREE|FOUR|
FIVE|SIX|SEVEN|EIGHT|NINE;B70 ORIYA *ISSHAR|LETTER WA;B72 ORIYA FRACTION *ONE QUARTER|ONE HALF|
THREE QUARTERS|ONE SIXTEENTH|ONE EIGHTH|THREE SIXTEENTHS;B82 TAMIL SIGN *ANUSVARA|VISARGA;
B85 TAMIL LETTER *A|AA|I|II|U|UU;B8E TAMIL LETTER *E|EE|AI;B92 TAMIL LETTER *O|OO|AU|KA;
B99 TAMIL LETTER *NGA|CA;B9C TAMIL LETTER JA*;B9E TAMIL LETTER *NYA|TTA;BA3 TAMIL LETTER *NNA|TA;
BA8 TAMIL LETTER *NA|NNNA|PA;BAE TAMIL LETTER *MA|YA|RA|RRA|LA|LLA|LLLA|VA|SHA|SSA|SA|HA;
BBE TAMIL VOWEL SIGN *AA|I|II|U|UU;BC6 TAMIL VOWEL SIGN *E|EE|AI;BCA TAMIL VOWEL SIGN *O|OO|AU;
BCD TAMIL SIGN VIRAMA*;BD0 TAMIL OM*;BD7 TAMIL AU LENGTH MARK*;BE6 TAMIL DIGIT *ZERO|ONE|TWO|
THREE|FOUR|FIVE|SIX|SEVEN|EIGHT|NINE;BF0 TAMIL NUMBER *TEN|ONE HUNDRED|ONE THOUSAND;BF3 TAMIL *
DAY SIGN|MONTH SIGN|YEAR SIGN|DEBIT SIGN|CREDIT SIGN|AS ABOVE SIGN|RUPEE SIGN|NUMBER SIGN;
C00 TELUGU SIGN *COMBINING CANDRABINDU ABOVE|CANDRABINDU|ANUSVARA|VISARGA|
COMBINING ANUSVARA ABOVE;C05 TELUGU LETTER *A|AA|I|II|U|UU|VOCALIC R|VOCALIC L;C0E TELUGU LETTER *
E|EE|AI;C12 TELUGU LETTER *O|OO|AU|KA|KHA|GA|GHA|NGA|CA|CHA|JA|JHA|NYA|TTA|TTHA|DDA|DDHA|NNA|TA|
THA|DA|DHA|NA;C2A TELUGU LETTER *PA|PHA|BA|BHA|MA|YA|RA|RRA|LA|LLA|LLLA|VA|SHA|SSA|SA|HA;
C3C TELUGU SIGN *NUKTA|AVAGRAHA;C3E TELUGU VOWEL SIGN *AA|I|II|U|UU|VOCALIC R|VOCALIC RR;
C46 TELUGU VOWEL SIGN *E|EE|AI;C4A TELUGU VOWEL SIGN *O|OO|AU;C4D TELUGU SIGN VIRAMA*;C55 TELUGU *
LENGTH MARK|AI LENGTH MARK;C58 TELUGU LETTER *TSA|DZA|RRRA;C5D TELUGU LETTER NAKAARA POLLU*;
C60 TELUGU LETTER VOCALIC *RR|LL;C62 TELUGU VOWEL SIGN VOCALIC *L|LL;C66 TELUGU DIGIT *ZERO|ONE|
TWO|THREE|FOUR|FIVE|SIX|SEVEN|EIGHT|NINE;C77 TELUGU SIGN SIDDHAM*;C78 TELUGU FRACTION DIGIT *
ZERO FOR ODD POWERS OF FOUR|ONE FOR ODD POWERS OF FOUR|TWO FOR ODD POWERS OF FOUR|
THREE FOR ODD POWERS OF FOUR|ONE FOR EVEN POWERS OF FOUR|TWO FOR EVEN POWERS OF FOUR|
THREE FOR EVEN POWERS OF FOUR;C7F TELUGU SIGN TUUMU*;C80 KANNADA SIGN *SPACING CANDRABINDU|
CANDRABINDU|ANUSVARA|VISARGA|SIDDHAM;C85 KANNADA LETTER *A|AA|I|II|U|UU|VOCALIC R|VOCALIC L;
C8E KANNADA LETTER *E|EE|AI;C92 KANNADA LETTER *O|OO|AU|KA|KHA|GA|GHA|NGA|CA|CHA|JA|JHA|NYA|TTA|
TTHA|DDA|DDHA|NNA|TA|THA|DA|DHA|NA;CAA KANNADA LETTER *PA|PHA|BA|BHA|MA|YA|RA|RRA|LA|LLA;
CB5 KANNADA LETTER *VA|SHA|SSA|SA|HA;CBC KANNADA SIGN *NUKTA|AVAGRAHA;CBE KANNADA VOWEL SIGN *AA|
I|II|U|UU|VOCALIC R|VOCALIC RR;CC6 KANNADA VOWEL SIGN *E|EE|AI;CCA KANNADA VOWEL SIGN *O|OO|AU;
CCD KANNADA SIGN VIRAMA*;CD5 KANNADA *LENGTH MARK|AI LENGTH MARK;CDD KANNADA LETTER *
NAKAARA POLLU|FA;CE0 KANNADA LETTER VOCALIC *RR|LL;CE2 KANNADA VOWEL SIGN VOCALIC *L|LL;
CE6 KANNADA DIGIT *ZERO|ONE|TWO|THREE|FOUR|FIVE|SIX|SEVEN|EIGHT|NINE;CF1 KANNADA SIGN *
JIHVAMULIYA|UPADHMANIYA;D00 MALAYALAM SIGN *COMBINING ANUSVARA ABOVE|CANDRABINDU|ANUSVARA|VISARGA;
D04 MALAYALAM LETTER *VEDIC ANUSVARA|A|AA|I|II|U|UU|VOCALIC R|VOCALIC L;D0E MALAYALAM LETTER *E|
EE|AI;D12 MALAYALAM LETTER *O|OO|AU|KA|KHA|GA|GHA|NGA|CA|CHA|JA|JHA|NYA|TTA|TTHA|DDA|DDHA|NNA|TA|
THA|DA|DHA|NA|NNNA|PA|PHA|BA|BHA|MA|YA|RA|RRA|LA|LLA|LLLA|VA|SHA|SSA|SA|HA|TTTA;
D3B MALAYALAM SIGN *VERTICAL BAR VIRAMA|CIRCULAR VIRAMA|AVAGRAHA;D3E MALAYALAM VOWEL SIGN *AA|I|
II|U|UU|VOCALIC R|VOCALIC RR;D46 MALAYALAM VOWEL SIGN *E|EE|AI;D4A MALAYALAM VOWEL SIGN *O|OO|AU;
D4D MALAYALAM *SIGN VIRAMA|LETTER DOT REPH|SIGN PARA;D54 MALAYALAM LETTER CHILLU *M|Y|LLL;
D57 MALAYALAM AU LENGTH MARK*;D58 MALAYALAM FRACTION *ONE ONE-HUNDRED-AND-SIXTIETH|ONE FORTIETH|
THREE EIGHTIETHS|ONE TWENTIETH|ONE TENTH|THREE TWENTIETHS|ONE FIFTH;D5F MALAYALAM LETTER *
ARCHAIC II|VOCALIC RR|VOCALIC LL;D62 MALAYALAM VOWEL SIGN VOCALIC *L|LL;D66 MALAYALAM DIGIT *ZERO|
ONE|TWO|THREE|FOUR|FIVE|SIX|SEVEN|EIGHT|NINE;D70 MALAYALAM NUMBER *TEN|ONE HUNDRED|ONE THOUSAND;
D73 MALAYALAM FRACTION *ONE QUARTER|ONE HALF|THREE QUARTERS|ONE SIXTEENTH|ONE EIGHTH|
THREE SIXTEENTHS;D79 MALAYALAM DATE MARK*;D7A MALAYALAM LETTER CHILLU *NN|N|RR|L|LL|K;
D81 SINHALA SIGN *CANDRABINDU|ANUSVARAYA|VISARGAYA;D85 SINHALA LETTER *AYANNA|AAYANNA|AEYANNA|
AEEYANNA|IYANNA|IIYANNA|UYANNA|UUYANNA|IRUYANNA|IRUUYANNA|ILUYANNA|ILUUYANNA|EYANNA|EEYANNA|
AIYANNA|OYANNA|OOYANNA|AUYANNA;D9A SINHALA LETTER *ALPAPRAANA KAYANNA|MAHAAPRAANA KAYANNA|
ALPAPRAANA GAYANNA|MAHAAPRAANA GAYANNA|KANTAJA NAASIKYAYA|SANYAKA GAYANNA|ALPAPRAANA CAYANNA|
MAHAAPRAANA CAYANNA|ALPAPRAANA JAYANNA|MAHAAPRAANA JAYANNA|TAALUJA NAASIKYAYA|
TAALUJA SANYOOGA NAAKSIKYAYA|SANYAKA JAYANNA|ALPAPRAANA TTAYANNA|MAHAAPRAANA TTAYANNA|
ALPAPRAANA DDAYANNA|MAHAAPRAANA DDAYANNA|MUURDHAJA NAYANNA|SANYAKA DDAYANNA|ALPAPRAANA TAYANNA|
MAHAAPRAANA TAYANNA|ALPAPRAANA DAYANNA|MAHAAPRAANA DAYANNA|DANTAJA NAYANNA;DB3 SINHALA LETTER *
SANYAKA DAYANNA|ALPAPRAANA PAYANNA|MAHAAPRAANA PAYANNA|ALPAPRAANA BAYANNA|MAHAAPRAANA BAYANNA|
MAYANNA|AMBA BAYANNA|YAYANNA|RAYANNA;DBD SINHALA LETTER DANTAJA LAYANNA*;DC0 SINHALA LETTER *
VAYANNA|TAALUJA SAYANNA|MUURDHAJA SAYANNA|DANTAJA SAYANNA|HAYANNA|MUURDHAJA LAYANNA|FAYANNA;
DCA SINHALA SIGN AL-LAKUNA*;DCF SINHALA VOWEL SIGN *AELA-PILLA|KETTI AEDA-PILLA|DIGA AEDA-PILLA|
KETTI IS-PILLA|DIGA IS-PILLA|KETTI PAA-PILLA;DD6 SINHALA VOWEL SIGN DIGA PAA-PILLA*;
DD8 SINHALA VOWEL SIGN *GAETTA-PILLA|KOMBUVA|DIGA KOMBUVA|KOMBU DEKA|KOMBUVA HAA AELA-PILLA|
KOMBUVA HAA DIGA AELA-PILLA|KOMBUVA HAA GAYANUKITTA|GAYANUKITTA;DE6 SINHALA LITH DIGIT *ZERO|ONE|
TWO|THREE|FOUR|FIVE|SIX|SEVEN|EIGHT|NINE;DF2 SINHALA VOWEL SIGN DIGA *GAETTA-PILLA|GAYANUKITTA;
DF4 SINHALA PUNCTUATION KUNDDALIYA*;E01 THAI CHARACTER *KO KAI|KHO KHAI|KHO KHUAT|KHO KHWAI|
KHO KHON|KHO RAKHANG|NGO NGU|CHO CHAN|CHO CHING|CHO CHANG|SO SO|CHO CHOE|YO YING|DO CHADA|
TO PATAK|THO THAN|THO NANGMONTHO|THO PHUTHAO|NO NEN|DO DEK|TO TAO|THO THUNG|THO THAHAN|THO THONG|
NO NU|BO BAIMAI|PO PLA|PHO PHUNG|FO FA|PHO PHAN|FO FAN|PHO SAMPHAO|MO MA|YO YAK|RO RUA|RU|LO LING|
LU|WO WAEN|SO SALA|SO RUSI|SO SUA|HO HIP|LO CHULA|O ANG|HO NOKHUK|PAIYANNOI|SARA A|MAI HAN-AKAT|
SARA AA|SARA AM|SARA I|SARA II|SARA UE|SARA UEE|SARA U|SARA UU|PHINTHU;
E3F THAI CURRENCY SYMBOL BAHT*;E40 THAI CHARACTER *SARA E|SARA AE|SARA O|SARA AI MAIMUAN|
SARA AI MAIMALAI|LAKKHANGYAO|MAIYAMOK|MAITAIKHU|MAI EK|MAI THO|MAI TRI|MAI CHATTAWA|THANTHAKHAT|
NIKHAHIT|YAMAKKAN|FONGMAN;E50 THAI DIGIT *ZERO|ONE|TWO|THREE|FOUR|FIVE|SIX|SEVEN|EIGHT|NINE;
E5A THAI CHARACTER *ANGKHANKHU|KHOMUT;E81 LAO LETTER *KO|KHO SUNG;E84 LAO LETTER KHO TAM*;
E86 LAO LETTER *PALI GHA|NGO|CO|PALI CHA|SO TAM;E8C LAO LETTER *PALI JHA|NYO|PALI NYA|PALI TTA|
PALI TTHA|PALI DDA|PALI DDHA|PALI NNA|DO|TO|THO SUNG|THO TAM|PALI DHA|NO|BO|PO|PHO SUNG|FO TAM|
PHO TAM|FO SUNG|PALI BHA|MO|YO|LO LING;EA5 LAO LETTER LO LOOT*;EA7 LAO LETTER *WO|SANSKRIT SHA|
SANSKRIT SSA|SO SUNG|HO SUNG|PALI LLA|O|HO TAM;EAF LAO ELLIPSIS*;EB0 LAO VOWEL SIGN *A|MAI KAN|AA|
AM|I|II|Y|YY|U|UU;EBA LAO *SIGN PALI VIRAMA|VOWEL SIGN MAI KON;EBC LAO SEMIVOWEL SIGN *LO|NYO;
EC0 LAO VOWEL SIGN *E|EI|O|AY|AI;EC6 LAO KO LA*;EC8 LAO TONE MAI *EK|THO|TI|CATAWA;ECC LAO *
CANCELLATION MARK|NIGGAHITA;ED0 LAO DIGIT *ZERO|ONE|TWO|THREE|FOUR|FIVE|SIX|SEVEN|EIGHT|NINE;
EDC LAO HO *NO|MO;EDE LAO LETTER KHMU *GO|NYO;F00 TIBETAN SYLLABLE OM*;
F01 TIBETAN MARK GTER YIG MGO *TRUNCATED A|-UM RNAM BCAD MA|-UM GTER TSHEG MA;F04 TIBETAN MARK *
INITIAL YIG MGO MDUN MA|CLOSING YIG MGO SGAB MA|CARET YIG MGO PHUR SHAD MA|YIG MGO TSHEG SHAD MA|
SBRUL SHAD|BSKUR YIG MGO|BKA- SHOG YIG MGO|INTERSYLLABIC TSHEG|DELIMITER TSHEG BSTAR|SHAD|
NYIS SHAD|TSHEG SHAD|NYIS TSHEG SHAD|RIN CHEN SPUNGS SHAD|RGYA GRAM SHAD|
CARET -DZUD RTAGS ME LONG CAN|GTER TSHEG;F15 TIBETAN LOGOTYPE SIGN *CHAD RTAGS|LHAG RTAGS;
F17 TIBETAN ASTROLOGICAL SIGN *SGRA GCAN -CHAR RTAGS|-KHYUD PA|SDONG TSHUGS;
F1A TIBETAN SIGN RDEL *DKAR GCIG|DKAR GNYIS|DKAR GSUM|NAG GCIG|NAG GNYIS|DKAR RDEL NAG;
F20 TIBETAN DIGIT *ZERO|ONE|TWO|THREE|FOUR|FIVE|SIX|SEVEN|EIGHT|NINE;F2A TIBETAN DIGIT HALF *ONE|
TWO|THREE|FOUR|FIVE|SIX|SEVEN|EIGHT|NINE|ZERO;F34 TIBETAN MARK *BSDUS RTAGS|NGAS BZUNG NYI ZLA|
CARET -DZUD RTAGS BZHI MIG CAN|NGAS BZUNG SGOR RTAGS|CHE MGO|TSA -PHRU|GUG RTAGS GYON|
GUG RTAGS GYAS|ANG KHANG GYON|ANG KHANG GYAS;F3E TIBETAN SIGN *YAR TSHES|MAR TSHES;
F40 TIBETAN LETTER *KA|KHA|GA|GHA|NGA|CA|CHA|JA;F49 TIBETAN LETTER *NYA|TTA|TTHA|DDA|DDHA|NNA|TA|
THA|DA|DHA|NA|PA|PHA|BA|BHA|MA|TSA|TSHA|DZA|DZHA|WA|ZHA|ZA|-A|YA|RA|LA|SHA|SSA|SA|HA|A|KSSA|
FIXED-FORM RA|KKA|RRA;F71 TIBETAN VOWEL SIGN *AA|I|II|U|UU|VOCALIC R|VOCALIC RR|VOCALIC L|
VOCALIC LL|E|EE|O|OO;F7E TIBETAN *SIGN RJES SU NGA RO|SIGN RNAM BCAD|VOWEL SIGN REVERSED I|
VOWEL SIGN REVERSED II|SIGN NYI ZLA NAA DA|SIGN SNA LDAN|MARK HALANTA|MARK PALUTA;
F86 TIBETAN SIGN *LCI RTAGS|YANG RTAGS|LCE TSA CAN|MCHU CAN|GRU CAN RGYINGS|GRU MED RGYINGS|
INVERTED MCHU CAN;F8D TIBETAN SUBJOINED SIGN *LCE TSA CAN|MCHU CAN|INVERTED MCHU CAN;
F90 TIBETAN SUBJOINED LETTER *KA|KHA|GA|GHA|NGA|CA|CHA|JA;F99 TIBETAN SUBJOINED LETTER *NYA|TTA|
TTHA|DDA|DDHA|NNA|TA|THA|DA|DHA|NA|PA|PHA|BA|BHA|MA|TSA|TSHA|DZA|DZHA|WA|ZHA|ZA|-A|YA|RA|LA|SHA|
SSA|SA|HA|A|KSSA|FIXED-FORM WA|FIXED-FORM YA|FIXED-FORM RA;FBE TIBETAN KU RU *KHA|
KHA BZHI MIG CAN;FC0 TIBETAN CANTILLATION SIGN *HEAVY BEAT|LIGHT BEAT|CANG TE-U|SBUB -CHAL;
FC4 TIBETAN SYMBOL *DRIL BU|RDO RJE|PADMA GDAN|RDO RJE RGYA GRAM|PHUR PA|NOR BU|
NOR BU NYIS -KHYIL|NOR BU GSUM -KHYIL|NOR BU BZHI -KHYIL;FCE TIBETAN SIGN RDEL NAG *RDEL DKAR|
GSUM;FD0 TIBETAN MARK *BSKA- SHOG GI MGO RGYAN|MNYAM YIG GI MGO RGYAN|NYIS TSHEG|
INITIAL BRDA RNYING YIG MGO MDUN MA|CLOSING BRDA RNYING YIG MGO SGAB MA;FD5 *
RIGHT-FACING SVASTI SIGN|LEFT-FACING SVASTI SIGN|RIGHT-FACING SVASTI SIGN WITH DOTS|
LEFT-FACING SVASTI SIGN WITH DOTS;FD9 TIBETAN MARK *LEADING MCHAN RTAGS|TRAILING MCHAN RTAGS;
"

end ArrowMachine.Text.Name
