/-!
# The table of character names

The names of the characters of Unicode 14 and their aliases, word by word. The names that show a
code point and those of the Hangul syllables are not listed. Behind a word stand in brackets the
words that may follow it; words joined by a plus sign go on alike. A tilde stands between the first
and the last of words that differ in a number. A point says that a name may also end there.
-/

namespace NodeLint.Text

/-- The names of characters, as `NameTree.read` reads them. -/
def nameTable : String :=
  "ABACUS ACCORDION ACK ACKNOWLEDGE ADMETOS ADULT AKTIESELSKAB ALEMBIC ALERT ALM AMBULANCE
   AMPERSAND AMPHORA ANCHOR ANKH ANT APC APOLLON APOSTROPHE AQUARIUS ARC ARIES ASSERTION ASTERISM
   ASTRAEA AUBERGINE AUTOMOBILE AVOCADO AXE BACKSPACE BACON BADGER BAGEL BALLOON BANANA BANJO BANK
   BASEBALL BASKET BAT BATH BATHTUB BATTERY BEANS BEAVER BECAUSE BED BEETLE BEL BETWEEN BICYCLE
   BICYCLIST BIKINI BILLIARDS BIRD BISON BLOSSOM BLOWFISH BLUEBERRIES BOAR BOM BOMB BONE BOOK BOOKS
   BOOMERANG BOWLING BOY BPH BRAIN BREAD BREAST-FEEDING BREVE BRICK BRIEFCASE BRIEFS BROCCOLI BROOM
   BS BUBBLES BUCKET BUG BULLSEYE BURRITO BUTTER BUTTERFLY CACTUS CADUCEUS CALENDAR CAMPING CAN
   CANCER CANDLE CANDY CANOE CAPITULUM CAPRICORN CARON CARROT CASTLE CCH CEDILLA CERES CGJ CHAINS
   CHAIR CHERRIES CHESTNUT CHICKEN CHILD CHIPMUNK CHIRON CHOPSTICKS CHURCH CINEMA CLIPBOARD COAT
   COCKROACH COCONUT COFFIN COIN COMET COMMA COMPASS COMPLEMENT COMPRESSION CONJUNCTION COOKIE
   COOKING CORAL COUNTERBORE COUNTERSINK CR CRAB CROCODILE CROISSANT CROWN CRUTCH CSI CUCUMBER
   CUPCAKE CUPIDO CUSTARD CUSTOMS CYCLONE CYLINDRICITY DANCER DANGO DC1~4 DCS DEER DEL DELETE
   DIAERESIS DIVIDES DLE DODO DOLPHIN DOOR DOUGHNUT DRESS DROPLET DUCK DUMPLING DVD EAGLE EGG
   ELEPHANT ELEVATOR ELF ENQ ENQUIRY EOL EOM EOT EPA ESA ESC ESCAPE ESTIMATES ETB ETX EXCESS EYE
   EYEGLASSES EYES FACTORY FAIRY FALAFEL FAMILY FEATHER FENCER FERRY FF FIRECRACKER FIREWORKS
   FISHEYE FLAMINGO FLATBREAD FLATNESS FLEUR-DE-LIS FLY FOG FOGGY FOLDER FONDUE FOOT FOOTPRINTS
   FORCES FORKING FOUNTAIN FROWN FS FSI FUSE FVS1~4 GARLIC GEMINI GENIE GHOST GIRL GLOVES GOAT
   GOGGLES GOLFER GORILLA GRAPES GS GUARDSMAN GUITAR HADES HAIRCUT HAMBURGER HAMSA HANDBAG HANDBALL
   HANDSHAKE HEADPHONE HEDGEHOG HELICOPTER HERB HIBISCUS HIPPOPOTAMUS HOCHO HOLE HOMOTHETIC
   HONEYBEE HOOK HOP HOSPITAL HOTEL HT HTJ HTS HUT HYGIEA HYPHEN-MINUS HYPODIASTOLE IMP INCREMENT
   IND INTERCALATE INTERROBANG JACK-O-LANTERN JAR JEANS JOIN JOYSTICK JUGGLING JUNO JUPITER KAABA
   KANGAROO KEY KIMONO KITE KIWIFRUIT KNOT KOALA KRONOS LABEL LADDER LEDGER LEG LEMON LEO LEOPARD
   LF LIBRA LIPS LIPSTICK LIZARD LLAMA LOBSTER LOLLIPOP LOTUS LRE LRI LRM LRO LUGGAGE LUNGS MACRON
   MAGE MAGNET MAMMOTH MANGO MAXIMIZE MELON MEMO MERCURY MERPERSON METRO MICROBE MICROPHONE
   MICROSCOPE MINIBUS MINIDISC MINIMIZE MINY MMSP MODELS MONORAIL MOSQUE MOSQUITO MOTORWAY MOUTH
   MOYAI MULTIMAP MUSHROOM MVS MW NABLA NAK NAND NBH NBSP NECKTIE NEL NESSUS NEUTER NEWSPAPER NINJA
   NL NNBSP NONFORKING NOR NOSE NUL NULL OCTOPUS ODEN OGONEK OLIVE ONION OPHIUCHUS OPPOSITION
   ORANGUTAN OSC OTTER OVERLAP OVERLINE OWL OX OYSTER PACKAGE PAD PAGER PAGES PAGODA PALLAS
   PANCAKES PAPERCLIP PARACHUTE PARAGRAPHOS PARROT PDF PDI PEACH PEACOCK PEANUTS PEAR PEDESTRIAN
   PENCIL PENGUIN PENTAGRAM PERSPECTIVE PHOLUS PICK PIE PILL PINATA PINEAPPLE PISCES PISTOL PLACARD
   PLD PLU PLUNGER PM POODLE POPCORN POSEIDON POSTBOX POTATO POUCH PRETZEL PRIME PRINCE PRINCESS
   PROJECTIVE PROPORTION PROSERPINA PU1~2 PURSE PUSHPIN QUINCUNX RACCOON RAIN RAINBOW RAM RAT RATIO
   RAZOR RECEIPT RESPONSE RESTROOM RHINOCEROS RI RIFLE RLE RLI RLM RLO ROCK ROCKET ROOSTER ROSE
   ROSETTE ROWBOAT RS RULE-DELAYED RUNNER SAGITTARIUS SAILBOAT SALTIRE SANDWICH SARI SATURN
   SAUROPOD SAXOPHONE SCALES SCARF SCI SCOOTER SCORPION SCORPIUS SCREEN SCREWDRIVER SCROLL SCRUPLE
   SEAL SEAT SECTOR SEDNA SEEDLING SEGMENT SELFIE SEMICOLON SEMISEXTILE SESQUIQUADRATE SEXTILE SGC
   SHAMROCK SHARK SHEEP SHIELD SHIP SHORTCAKE SHORTS SHOWER SHRIMP SHRUG SHY SI SINGLE-SHIFT-2~3
   SKATEBOARD SKIER SKUNK SLED SLOPE SLOTH SMILE SNAIL SNAKE SNOWBOARDER SNOWFLAKE SO SOCKS
   SOFTBALL SOH SOS SP SPA SPACE SPAGHETTI SPARKLE SPARKLES SPEEDBOAT SPONGE SPOON SQUID SS2~3 SSA
   ST STADIUM STATION STETHOSCOPE STOPWATCH STRAIGHTNESS STRAWBERRY STS STUPA STX SUB SUBSTITUTE
   SUNFLOWER SUPERHERO SUPERVILLAIN SURFER SUSHI SWAN SWIMMER SYMMETRY SYN SYNAGOGUE SYRINGE T-REX
   T-SHIRT TAB TACO TAMALE TANGERINE TAURUS TAXI TEAPOT TELESCOPE TELEVISION TENT THEREFORE
   THERMODYNAMIC THERMOMETER THUNDERSTORM TICKET TOILET TOMATO TONGUE TOOLBOX TOOTH TOOTHBRUSH
   TRACKBALL TRACTOR TRAIN TRANSPLUTO TRICOLON TROLL TROLLEYBUS TROPHY TRUMPET TULIP TURKEY TURTLE
   UNDERTIE URANUS US VAMPIRE VERSICLE VESTA VIDEOCASSETTE VIOLIN VIRGO VOLCANO VOLLEYBALL VS1~9
   VS10~99 VS100~256 VT VTS VULCANUS WAFFLE WASTEBASKET WATCH WATERMELON WEDDING WHALE WINDOW WJ
   WOOD WORM WRENCH WRESTLERS X-RAY XOR YO-YO ZEUS ZOMBIE ZWJ ZWNBSP ZWNJ ZWSP AC(CURRENT) ACCOUNT+
   CARE+ORIGINAL(OF) ACTIVATE+INHIBIT(ARABIC(FORM(SHAPING)) SYMMETRIC(SWAPPING)) ACUTE(ACCENT
   ANGLE) ADDRESSED(TO(THE(SUBJECT))) ADHESIVE(BANDAGE) ADI(SHAKTI) ADLAM(HAMZA NUKTA ALIF+VOWEL(
   LENGTHENER) CAPITAL+SMALL(LETTER(ALIF BA BHE CHI DAALI DHA E FA GA GBE HA I JIIM KAF KHA KPO
   LAAM MIIM NHA NUN NYA O PE QAAF RA SHA SINNYIIYHE TU U VA WAW YA YHE ZAL)) CONSONANT(MODIFIER)
   DIGIT(EIGHT FIVE FOUR NINE ONE SEVEN SIX THREE TWO ZERO) GEMINATE(CONSONANT(MODIFIER))
   GEMINATION+NASALIZATION(MARK) INITIAL(EXCLAMATION+QUESTION(MARK))) ADMISSION(TICKETS) AEGEAN(
   CHECK(MARK) DRY+LIQUID(MEASURE(FIRST(SUBUNIT))) MEASURE(SECOND+THIRD(SUBUNIT)) NUMBER(EIGHT+
   FIVE+FOUR+NINE+ONE+SEVEN+SIX+THREE+TWO(.HUNDRED THOUSAND) EIGHTY+FIFTY+FORTY+NINETY+SEVENTY+
   SIXTY+TEN+THIRTY+TWENTY(.THOUSAND)) WEIGHT(BASE(UNIT) FIRST+FOURTH+SECOND+THIRD(SUBUNIT)) WORD(
   SEPARATOR(DOT LINE))) AERIAL(TRAMWAY) AFGHANI+ANGSTROM+AUSTRAL+BIOHAZARD+BITCOIN+CAUTION+CEDI+
   CENT+COPYRIGHT+CRUZEIRO+DIAMETER+DOLLAR+DONG+DRACHMA+EURO+EURO-CURRENCY+FACSIMILE+FEMALE+
   GUARANI+HRYVNIA+KELVIN+KIP+LARI+LIRA+MANAT+MICRO+MILL+MINUS-OR-PLUS+NAIRA+NOMISMA+NUMERO+
   OCTAGONAL+OHM+OUNCE+PARTNERSHIP+PERCENT+PESETA+PESO+PILCROW+PLUS-MINUS+POUND+PROHIBITED+
   RADIOACTIVE+REGISTERED+RIAL+RUBLE+RUPEE+SECTION+SOM+SPESMILO+TENGE+TUGRIK+UNCERTAINTY+WARNING+
   WON+YEN(SIGN) AHOM(CONSONANT(SIGN(MEDIAL(LA RA LIGATING(RA)))) DIGIT(EIGHT FIVE FOUR NINE ONE
   SEVEN SIX THREE TWO ZERO) LETTER(A BA BHA CA CHA DA DDA DDHA DHA GA GHA HA JA JHA KA KHA LA LLA
   MA NA NGA NNA NYA PA PHA RA SA TA THA TTA TTHA ALTERNATE(BA GA TA)) NUMBER(TEN TWENTY) SIGN(
   KILLER RULAI SECTION SMALL(SECTION)) SYMBOL(VI) VOWEL(SIGN(A AA AI AM AW E I II O U UU)))
   AIRPLANE(.ARRIVING DEPARTURE) ALARM+MANTELPIECE+TIMER(CLOCK) ALCHEMICAL(SYMBOL(FOR(AIR ALEMBIC
   ALKALI ALKALI-2 ALUM AMALGAM AQUAFORTIS ARSENIC ASHES AURIPIGMENT BORAX BORAX-2~3 BRICK CADUCEUS
   CALX CINNABAR CRUCIBLE CRUCIBLE-2~5 DAY-NIGHT DISSOLVE DISSOLVE-2 DISTILL EARTH FIRE GOLD GUM
   HOUR LODESTONE MARCASITE MONTH NIGHT NITRE OIL POWDER PRECIPITATE PURIFY PUTREFACTION
   QUINTESSENCE REALGAR REALGAR-2 REGULUS-2~4 RETORT SAL-AMMONIAC SILVER SOAP SPIRIT SUBLIMATION
   SULFUR TARTAR TARTAR-2 TINCTURE TRIDENT TUTTY URINE VERDIGRIS VINEGAR-2~3 VITRIOL VITRIOL-2
   WATER WAX ANTIMONY+BISMUTH+IRON-COPPER+LEAD+TIN(ORE) AQUA(REGIA REGIA-2 VITAE VITAE-2) BATH(OF(
   MARY VAPOURS)) BLACK+PHILOSOPHERS(SULFUR) CAPUT(MORTUUM) COPPER(ANTIMONIATE ORE) CROCUS(OF(
   COPPER COPPER-2 IRON)) HALF(DRAM OUNCE) HORSE(DUNG) IRON(ORE ORE-2) MERCURY(SUBLIMATE
   SUBLIMATE-2~3) POT(ASHES) POWDERED(BRICK) QUICK(LIME) REGULUS(.OF(ANTIMONY ANTIMONY-2 IRON))
   ROCK(SALT SALT-2) SALT(.OF(ANTIMONY COPPER(ANTIMONIATE))) SCEPTER(OF(JOVE)) STARRED(TRIDENT)
   STRATUM(SUPER(STRATUM STRATUM-2)) SUBLIMATE(OF(ANTIMONY COPPER SALT(OF(ANTIMONY COPPER))))
   VINEGAR(.OF(ANTIMONY))))) ALEF+ANGER+ASCIA+ATOM+BET+BLANK+BOYS+COLLISION+COMPOSITION+COPYLEFT+
   DALET+DIVORCE+E-MAIL+EJECT+EMPHASIS+ENTER+ESTIMATED+FARSI+GIMEL+GIRLS+HELM+HYSTERESIS+INSERTION+
   LINK+MARRIAGE+MENS+MONOSTABLE+OM+PASSED+PASSIVE-PULL-DOWN-OUTPUT+PASSIVE-PULL-UP-OUTPUT+PEACE+
   SEPARATED+SMOKING+SOFTWARE-FUNCTION+UNDO+UNITED+WHEELCHAIR+WOMENS(SYMBOL) ALIEN(MONSTER) ALL(
   AROUND-PROFILE EQUAL(TO)) ALMOST(EQUAL(OR(EQUAL(TO)) TO(.WITH(CIRCUMFLEX(ACCENT))))) ALTERNATE(
   ONE-WAY(LEFT(WAY(TRAFFIC)))) ALTERNATIVE(KEY(SYMBOL)) AMALGAMATION(OR(COPRODUCT)) AMERICAN+
   RUGBY(FOOTBALL) ANATOLIAN(HIEROGLYPH(A001~331 A010A A026A A039A A041A A045A A046A A046B A066A
   A066B A066C A097A A098A A100A A101A A102A A104A A104B A104C A105A A105B A107A A107B A107C A110A
   A110B A115A A125A A135A A202A A202B A207A A209A A215A A216A A227A A267A A289A A294A A299A A309A
   A329A A332A A332B A332C A333~382 A336A A336B A336C A359A A364A A368A A371A A381A A383A A384~392
   A386A A394~409 A411~497 A450A A457A A501~530 A383(RA(OR(RI))) A393(EIGHT) A410(BEGIN(LOGOGRAM(
   MARK))) A410A(END(LOGOGRAM(MARK))))) ANATOMICAL+BEATING+BROWN+FLORAL+GROWING+PURPLE+SPARKLING+
   YELLOW(HEART) AND(WITH(DOT)) ANGLE(.WITH(UNDERBAR S(INSIDE))) ANGRY+ANGUISHED+ASTONISHED+BEAR+
   CLOWN+CONFOUNDED+CONFUSED+DISGUISED+DROOLING+EXPRESSIONLESS+FEARFUL+FLUSHED+FOX+FREEZING+FROG+
   GIRAFFE+GRIMACING+HAMSTER+HUGGING+HUSHED+LION+LYING+MELTING+MONEY-MOUTH+NAUSEATED+NERD+
   OVERHEATED+PANDA+PENSIVE+PERSEVERING+RELIEVED+ROBOT+SALUTING+SLEEPY+SMIRKING+SNEEZING+THINKING+
   TIRED+UNAMUSED+UNICORN+UPSIDE-DOWN+WINKING+WOLF+WORRIED+YAWNING+ZEBRA+ZIPPER-MOUTH(FACE)
   ANTENNA(WITH(BARS)) ANTICLOCKWISE(INTEGRATION CLOSED+GAPPED+OPEN(CIRCLE(ARROW)) CONTOUR(
   INTEGRAL) DOWNWARDS(AND(UPWARDS(OPEN(CIRCLE(ARROWS))))) TOP(SEMICIRCLE(ARROW)) TRIANGLE-HEADED(
   BOTTOM+LEFT+RIGHT+TOP(U-SHAPED(ARROW)) OPEN(CIRCLE(ARROW)))) APL(FUNCTIONAL(SYMBOL(I-BEAM RHO
   ZILDE ALPHA+IOTA+OMEGA(.UNDERBAR) BACKSLASH+COMMA+SLASH(BAR) CIRCLE(BACKSLASH DIAERESIS JOT STAR
   STILE UNDERBAR) DEL(DIAERESIS STILE TILDE) DELTA(STILE UNDERBAR) DIAMOND+EPSILON+SEMICOLON(
   UNDERBAR) DOWN(CARET(TILDE) SHOE(STILE) TACK(JOT UNDERBAR)) DOWNWARDS+LEFTWARDS+RIGHTWARDS+
   UPWARDS(VANE) GREATER-THAN+STAR+TILDE(DIAERESIS) JOT(DIAERESIS UNDERBAR) LEFT(SHOE(STILE)) QUAD(
   .BACKSLASH CIRCLE COLON DEL DELTA DIAMOND DIVIDE EQUAL GREATER-THAN JOT LESS-THAN QUESTION SLASH
   DOWN+UP(CARET) DOWNWARDS+LEFTWARDS+RIGHTWARDS+UPWARDS(ARROW) NOT(EQUAL)) QUOTE(QUAD UNDERBAR)
   SQUISH(QUAD) STILE(TILDE) UP(CARET(TILDE) SHOE(JOT) TACK(DIAERESIS JOT OVERBAR))))) APPLICATION(
   PROGRAM(COMMAND)) APPROACHES(THE(LIMIT)) APPROXIMATELY(BUT(NOT(ACTUALLY(EQUAL(TO)))) EQUAL(OR(
   EQUAL(TO)) TO(.OR(THE(IMAGE(OF)))))) ARABIC(COMMA RAY SEMICOLON ZWARAKAY BASELINE+RAISED(ROUND(
   DOT)) CURLY(DAMMA DAMMATAN FATHA FATHATAN KASRA KASRATAN) DAMMA(.ISOLATED+MEDIAL(FORM) WITH(
   DOT)) DAMMATAN+FATHATAN+KASRATAN(.ISOLATED(FORM)) DATE+DECIMAL+THOUSANDS(SEPARATOR) DISPUTED(
   END(OF(AYAH))) DOUBLE(RIGHT(ARROWHEAD(ABOVE(.WITH(DOT))))) DOUBLED(MADDA) EMPTY(CENTRE(HIGH+LOW(
   STOP))) END(OF(AYAH TEXT(MARK))) FATHA(.ISOLATED+MEDIAL(FORM) WITH(RING DOT(ABOVE) TWO(DOTS)))
   FIVE(POINTED(STAR)) FOOTNOTE(MARKER) FULL(STOP) HALF(MADDA(OVER(MADDA))) HAMZA(ABOVE BELOW)
   INVERTED+REVERSED(DAMMA) KASRA(.ISOLATED+MEDIAL(FORM) WITH(DOT(BELOW))) LARGE(CIRCLE(BELOW)
   ROUND(DOT(ABOVE BELOW INSIDE(CIRCLE(BELOW))))) LEFT(ARROWHEAD(ABOVE BELOW)) LETTER(AE GRAF MARK
   AFRICAN(FEH NOON QAF(.WITH(THREE(DOTS(ABOVE))))) AIN(.FINAL+INITIAL+ISOLATED+MEDIAL(FORM) WITH(
   THREE(DOTS(ABOVE BELOW POINTING(DOWNWARDS(ABOVE)))) TWO(DOTS(ABOVE VERTICALLY(ABOVE))))) ALEF(
   .FINAL+ISOLATED(FORM) MAKSURA+WASLA(.FINAL+ISOLATED(FORM)) WITH(ATTACHED(FATHA KASRA BOTTOM(
   RIGHT(KASRA(.AND(DOT(ABOVE) LEFT(RING))))) LEFT+RIGHT(HAMZA ROUND(DOT)) ROUND(DOT(ABOVE BELOW))
   TOP(RIGHT(FATHA(.AND(DOT(ABOVE) LEFT(RING)))))) DOT(ABOVE) EXTENDED(ARABIC-INDIC(DIGIT(THREE+
   TWO(ABOVE)))) HAMZA(ABOVE+BELOW(.FINAL+ISOLATED(FORM))) LEFT(MIDDLE(STROKE)) MADDA(ABOVE(.FINAL+
   ISOLATED(FORM))) RIGHT(MIDDLE(STROKE(.AND(DOT(ABOVE) LEFT(RING))))) WAVY(HAMZA(ABOVE BELOW))))
   BEEH+BEHEH+DYEH+E+GUEH+KHAH+NG+NGOEH+NYEH+PEHEH+RNOON+TCHEHEH+TEHEH+THEH+TTEHEH+VEH+ZAH(.FINAL+
   INITIAL+ISOLATED+MEDIAL(FORM)) BEH(.FINAL+INITIAL+ISOLATED+MEDIAL(FORM) WITH(DOT(BELOW(AND(
   THREE(DOTS(ABOVE))))) HAMZA(ABOVE) INVERTED(SMALL(V(BELOW))) SMALL(MEEM(ABOVE) V(.BELOW)) THREE(
   DOTS(HORIZONTALLY(BELOW) POINTING(UPWARDS(BELOW(.AND(TWO(DOTS(ABOVE)))))))) TWO(DOTS(BELOW(AND(
   DOT(ABOVE))))))) DAD+SHEEN(.FINAL+INITIAL+ISOLATED+MEDIAL(FORM) WITH(DOT(BELOW))) DAHAL+DDAHAL+
   DDAL+DUL+JEH+OE+RREH+THAL+VE+YU(.FINAL+ISOLATED(FORM)) DAL(.FINAL+ISOLATED(FORM) WITH(RING DOT(
   BELOW(.AND(SMALL(TAH)))) FOUR(DOTS(ABOVE)) INVERTED(V SMALL(V(BELOW))) THREE(DOTS(BELOW ABOVE(
   DOWNWARDS))) TWO(DOTS(VERTICALLY(BELOW(AND(SMALL(TAH)))))))) DOTLESS(BEH FEH QAF) FARSI(YEH(
   .FINAL+INITIAL+ISOLATED+MEDIAL(FORM) WITH(EXTENDED(ARABIC-INDIC(DIGIT(FOUR(BELOW) THREE+TWO(
   ABOVE)))) INVERTED(V) THREE+TWO(DOTS(ABOVE))))) FEH(.FINAL+INITIAL+ISOLATED+MEDIAL(FORM) WITH(
   DOT(BELOW(.AND(THREE(DOTS(ABOVE)))) MOVED(BELOW)) THREE(DOTS(BELOW POINTING(UPWARDS(BELOW))))
   TWO(DOTS(BELOW)))) GAF(.FINAL+INITIAL+ISOLATED+MEDIAL(FORM) WITH(RING INVERTED(STROKE) THREE(
   DOTS(ABOVE)) TWO(DOTS(BELOW)))) GHAIN(.FINAL+INITIAL+ISOLATED+MEDIAL(FORM) WITH(DOT(BELOW)
   THREE(DOTS(ABOVE)))) HAH(.FINAL+INITIAL+ISOLATED+MEDIAL(FORM) WITH(EXTENDED(ARABIC-INDIC(DIGIT(
   FOUR(BELOW)))) HAMZA(ABOVE) INVERTED(SMALL(V(BELOW))) SMALL(ARABIC(LETTER(TAH(ABOVE BELOW AND(
   TWO(DOTS)))))) THREE(DOTS(ABOVE POINTING(UPWARDS(BELOW)))) TWO(DOTS(ABOVE VERTICAL(ABOVE)))))
   HAMZA(.ISOLATED(FORM)) HEH(.DOACHASHMEE(.FINAL+INITIAL+ISOLATED+MEDIAL(FORM)) FINAL+INITIAL+
   ISOLATED+MEDIAL(FORM) GOAL(.FINAL+INITIAL+ISOLATED+MEDIAL(FORM) WITH(HAMZA(ABOVE))) WITH(
   INVERTED(V) YEH(ABOVE(.FINAL+ISOLATED(FORM))))) HIGH(HAMZA(.ALEF WAW YEH)) JEEM(.FINAL+INITIAL+
   ISOLATED+MEDIAL(FORM) WITH(THREE(DOTS(ABOVE BELOW)) TWO(DOTS(ABOVE)))) KAF(.FINAL+INITIAL+
   ISOLATED+MEDIAL(FORM) WITH(RING DOT(ABOVE BELOW) THREE(DOTS(BELOW)) TWO(DOTS(ABOVE)))) KASHMIRI+
   ROHINGYA+THIN(YEH) KEHEH(.FINAL+INITIAL+ISOLATED+MEDIAL(FORM) WITH(DOT(ABOVE) SMALL(V) THREE(
   DOTS(ABOVE BELOW POINTING(UPWARDS(BELOW)))) TWO(DOTS(ABOVE VERTICALLY(BELOW))))) KIRGHIZ(OE+YU(
   .FINAL+ISOLATED(FORM))) LAM(.FINAL+INITIAL+ISOLATED+MEDIAL(FORM) WITH(BAR DOT(ABOVE) DOUBLE(BAR)
   SMALL(V ARABIC(LETTER(TAH(ABOVE)))) THREE(DOTS(ABOVE BELOW)))) LOW+SUPERSCRIPT(ALEF) MEEM(
   .FINAL+INITIAL+ISOLATED+MEDIAL(FORM) WITH(DOT(ABOVE BELOW) THREE(DOTS(ABOVE)))) NOON(.FINAL+
   INITIAL+ISOLATED+MEDIAL(FORM) GHUNNA(.FINAL+ISOLATED(FORM)) WITH(RING DOT(BELOW) INVERTED(SMALL(
   V)) SMALL(TAH V) THREE(DOTS(ABOVE)) TWO(DOTS(BELOW)))) PEH(.FINAL+INITIAL+ISOLATED+MEDIAL(FORM)
   WITH(SMALL(V MEEM(ABOVE)))) QAF(.FINAL+INITIAL+ISOLATED+MEDIAL(FORM) WITH(DOT(ABOVE BELOW(.AND(
   NO(DOTS(ABOVE))))) THREE(DOTS(ABOVE)))) REH(.FINAL+ISOLATED(FORM) WITH(LOOP RING STROKE DOT(
   BELOW(.AND(DOT(ABOVE)))) FOUR(DOTS(ABOVE)) HAMZA(ABOVE) INVERTED(V) SMALL(ARABIC(LETTER(TAH(AND(
   TWO(DOTS))))) NOON(ABOVE) V(.BELOW)) TWO(DOTS(ABOVE VERTICALLY(ABOVE))))) SAD(.FINAL+INITIAL+
   ISOLATED+MEDIAL(FORM) WITH(THREE(DOTS(ABOVE BELOW)) TWO(DOTS(BELOW)))) SEEN(.FINAL+INITIAL+
   ISOLATED+MEDIAL(FORM) WITH(DOT(BELOW(AND(DOT(ABOVE)))) EXTENDED(ARABIC-INDIC(DIGIT(FOUR(
   ABOVE)))) FOUR(DOTS(ABOVE)) INVERTED(V) SMALL(ARABIC(LETTER(TAH(AND(TWO(DOTS)))))) THREE(DOTS(
   BELOW(.AND(THREE(DOTS(ABOVE)))))) TWO(DOTS(VERTICALLY(ABOVE))))) STRAIGHT(WAW) SWASH(KAF) TAH(
   .FINAL+INITIAL+ISOLATED+MEDIAL(FORM) WITH(DOT(BELOW) THREE(DOTS(ABOVE BELOW)) TWO(DOTS(ABOVE))))
   TCHEH(.FINAL+INITIAL+ISOLATED+MEDIAL(FORM) WITH(DOT(ABOVE) SMALL(V))) TEH(.FINAL+INITIAL+
   ISOLATED+MEDIAL(FORM) MARBUTA(.GOAL FINAL+ISOLATED(FORM)) WITH(RING SMALL(V TEH(ABOVE)) THREE(
   DOTS(ABOVE(DOWNWARDS))))) TTEH(.FINAL+INITIAL+ISOLATED+MEDIAL(FORM) WITH(SMALL(V))) U(.FINAL+
   ISOLATED(FORM) WITH(HAMZA(ABOVE(.ISOLATED(FORM))))) UIGHUR(KAZAKH(KIRGHIZ(ALEF(MAKSURA(INITIAL+
   MEDIAL(FORM)))))) WAW(.FINAL+ISOLATED(FORM) WITH(RING DOT(ABOVE WITHIN) EXTENDED(ARABIC-INDIC(
   DIGIT(THREE+TWO(ABOVE)))) HAMZA(ABOVE(.FINAL+ISOLATED(FORM))) TWO(DOTS(ABOVE)))) YEH(.BARREE(
   .FINAL+ISOLATED(FORM) WITH(EXTENDED(ARABIC-INDIC(DIGIT(THREE+TWO(ABOVE)))) HAMZA(ABOVE(.FINAL+
   ISOLATED(FORM))))) FINAL+INITIAL+ISOLATED+MEDIAL(FORM) WITH(TAIL HAMZA(ABOVE(.FINAL+INITIAL+
   ISOLATED+MEDIAL(FORM))) SMALL(V) THREE(DOTS(BELOW)) TWO(DOTS(BELOW(AND(DOT+HAMZA(ABOVE) SMALL(
   NOON(ABOVE)))))))) ZAIN(.FINAL+ISOLATED(FORM) WITH(INVERTED(V(ABOVE))))) LIGATURE(
   JALLAJALALOUHOU AIN(WITH(ALEF(MAKSURA(FINAL+ISOLATED(FORM))) JEEM(INITIAL+ISOLATED(FORM) WITH(
   MEEM(FINAL+INITIAL(FORM)))) MEEM(INITIAL+ISOLATED(FORM) WITH(ALEF(MAKSURA(FINAL(FORM))) MEEM(
   FINAL+INITIAL(FORM)) YEH(FINAL(FORM)))) YEH(FINAL+ISOLATED(FORM)))) AKBAR+ALAYHE+ALLAH+MOHAMMAD+
   RASOUL+SALAM+WASALLAM(ISOLATED(FORM)) ALAYHAA+ALAYHIM+ALAYHIMAA(AS-SALAAM) ALAYHI(AS-SALAAM
   AS-SALAATU(WAS-SALAAM)) ALEF(MAKSURA(WITH(SUPERSCRIPT(ALEF(FINAL+ISOLATED(FORM))))) WITH(
   FATHATAN(FINAL+ISOLATED(FORM)))) AZZA(WA(JALL)) BEH(WITH(ALEF(MAKSURA(FINAL+ISOLATED(FORM)))
   HAH+KHAH(INITIAL+ISOLATED(FORM) WITH(YEH(FINAL(FORM)))) HEH(INITIAL+MEDIAL(FORM)) JEEM(INITIAL+
   ISOLATED(FORM)) MEEM(FINAL+INITIAL+ISOLATED+MEDIAL(FORM)) NOON+REH+ZAIN(FINAL(FORM)) YEH(FINAL+
   ISOLATED(FORM)))) BISMILLAH(AR-RAHMAN(AR-RAHEEM)) DAD(WITH(ALEF(MAKSURA(FINAL+ISOLATED(FORM)))
   HAH(INITIAL+ISOLATED(FORM) WITH(ALEF(MAKSURA(FINAL(FORM))) YEH(FINAL(FORM)))) JEEM+MEEM(INITIAL+
   ISOLATED(FORM)) KHAH(INITIAL+ISOLATED(FORM) WITH(MEEM(FINAL+INITIAL(FORM)))) REH+YEH(FINAL+
   ISOLATED(FORM)))) FEH(WITH(ALEF(MAKSURA(FINAL+ISOLATED(FORM))) HAH+JEEM(INITIAL+ISOLATED(FORM))
   KHAH(INITIAL+ISOLATED(FORM) WITH(MEEM(FINAL+INITIAL(FORM)))) MEEM(INITIAL+ISOLATED(FORM) WITH(
   YEH(FINAL(FORM)))) YEH(FINAL+ISOLATED(FORM)))) GHAIN(WITH(ALEF(MAKSURA(FINAL+ISOLATED(FORM)))
   JEEM(INITIAL+ISOLATED(FORM)) MEEM(INITIAL+ISOLATED(FORM) WITH(ALEF(MAKSURA(FINAL(FORM))) MEEM+
   YEH(FINAL(FORM)))) YEH(FINAL+ISOLATED(FORM)))) HAH(WITH(ALEF(MAKSURA(FINAL+ISOLATED(FORM)))
   JEEM(INITIAL+ISOLATED(FORM) WITH(YEH(FINAL(FORM)))) MEEM(INITIAL+ISOLATED(FORM) WITH(ALEF(
   MAKSURA(FINAL(FORM))) YEH(FINAL(FORM)))) YEH(FINAL+ISOLATED(FORM)))) HEH(WITH(ALEF(MAKSURA(
   ISOLATED(FORM))) JEEM(INITIAL+ISOLATED(FORM)) MEEM(INITIAL+ISOLATED(FORM) WITH(JEEM+MEEM(
   INITIAL(FORM)))) SUPERSCRIPT(ALEF(INITIAL(FORM))) YEH(ISOLATED(FORM)))) JEEM(WITH(ALEF(MAKSURA(
   FINAL+ISOLATED(FORM))) HAH(INITIAL+ISOLATED(FORM) WITH(ALEF(MAKSURA(FINAL(FORM))) YEH(FINAL(
   FORM)))) MEEM(INITIAL+ISOLATED(FORM) WITH(ALEF(MAKSURA(FINAL(FORM))) HAH(FINAL+INITIAL(FORM))
   YEH(FINAL(FORM)))) YEH(FINAL+ISOLATED(FORM)))) KAF(WITH(ALEF(FINAL+ISOLATED(FORM) MAKSURA(FINAL+
   ISOLATED(FORM))) HAH+JEEM+KHAH(INITIAL+ISOLATED(FORM)) LAM(FINAL+INITIAL+ISOLATED+MEDIAL(FORM))
   MEEM(FINAL+INITIAL+ISOLATED+MEDIAL(FORM) WITH(MEEM(FINAL+INITIAL(FORM)) YEH(FINAL(FORM)))) YEH(
   FINAL+ISOLATED(FORM)))) KHAH(WITH(ALEF(MAKSURA(FINAL+ISOLATED(FORM))) HAH(ISOLATED(FORM)) JEEM+
   MEEM(INITIAL+ISOLATED(FORM)) YEH(FINAL+ISOLATED(FORM)))) LAM(WITH(ALEF(FINAL+ISOLATED(FORM)
   MAKSURA(FINAL+ISOLATED(FORM)) WITH(HAMZA(ABOVE+BELOW(FINAL+ISOLATED(FORM))) MADDA(ABOVE(FINAL+
   ISOLATED(FORM))))) HAH(INITIAL+ISOLATED(FORM) WITH(ALEF(MAKSURA(FINAL(FORM))) MEEM(FINAL+
   INITIAL(FORM)) YEH(FINAL(FORM)))) HEH(INITIAL(FORM)) JEEM(INITIAL+ISOLATED(FORM) WITH(JEEM+MEEM(
   FINAL+INITIAL(FORM)) YEH(FINAL(FORM)))) KHAH(INITIAL+ISOLATED(FORM) WITH(MEEM(FINAL+INITIAL(
   FORM)))) MEEM(FINAL+INITIAL+ISOLATED+MEDIAL(FORM) WITH(HAH(FINAL+INITIAL(FORM)) YEH(FINAL(
   FORM)))) YEH(FINAL+ISOLATED(FORM)))) MEEM(WITH(ALEF(FINAL(FORM) MAKSURA(ISOLATED(FORM))) HAH+
   KHAH(INITIAL+ISOLATED(FORM) WITH(JEEM+MEEM(INITIAL(FORM)) YEH(FINAL(FORM)))) JEEM(INITIAL+
   ISOLATED(FORM) WITH(HAH+KHAH+MEEM(INITIAL(FORM)) YEH(FINAL(FORM)))) MEEM(FINAL+INITIAL+ISOLATED(
   FORM) WITH(YEH(FINAL(FORM)))) YEH(ISOLATED(FORM)))) NOON(WITH(ALEF(MAKSURA(FINAL+ISOLATED(
   FORM))) HAH(INITIAL+ISOLATED(FORM) WITH(ALEF(MAKSURA(FINAL(FORM))) MEEM(INITIAL(FORM)) YEH(
   FINAL(FORM)))) HEH(INITIAL+MEDIAL(FORM)) JEEM(INITIAL+ISOLATED(FORM) WITH(ALEF(MAKSURA(FINAL(
   FORM))) HAH+MEEM(FINAL+INITIAL(FORM)) YEH(FINAL(FORM)))) KHAH(INITIAL+ISOLATED(FORM)) MEEM(
   FINAL+INITIAL+ISOLATED+MEDIAL(FORM) WITH(ALEF(MAKSURA(FINAL(FORM))) YEH(FINAL(FORM)))) NOON+REH+
   ZAIN(FINAL(FORM)) YEH(FINAL+ISOLATED(FORM)))) QAF(WITH(ALEF(MAKSURA(FINAL+ISOLATED(FORM))) HAH(
   INITIAL+ISOLATED(FORM)) MEEM(INITIAL+ISOLATED(FORM) WITH(HAH(FINAL+INITIAL(FORM)) MEEM+YEH(
   FINAL(FORM)))) YEH(FINAL+ISOLATED(FORM)))) QALA(USED(AS(KORANIC(STOP(SIGN(ISOLATED(FORM)))))))
   QUDDISA(SIRRAH) RADI(ALLAAHU(ANH ANHAA ANHUM ANHUMAA ANHUNNA)) RAHIMAHU+RAHIMAHUM(ALLAAH) REH+
   THAL(WITH(SUPERSCRIPT(ALEF(ISOLATED(FORM))))) SAD(WITH(ALEF(MAKSURA(FINAL+ISOLATED(FORM))) HAH(
   INITIAL+ISOLATED(FORM) WITH(HAH(FINAL+INITIAL(FORM)) YEH(FINAL(FORM)))) KHAH(INITIAL(FORM))
   MEEM(INITIAL+ISOLATED(FORM) WITH(MEEM(FINAL+INITIAL(FORM)))) REH+YEH(FINAL+ISOLATED(FORM))))
   SALAAMUHU(ALAYNAA) SALLA(ISOLATED(FORM) USED(AS(KORANIC(STOP(SIGN(ISOLATED(FORM)))))))
   SALLALLAAHU(ALAYHI(WA-AALIH)) SALLALLAHOU(ALAYHE(WASALLAM)) SALLALLAHU(ALAYHI(WAAALIHEE(
   WA-SALLAM))) SEEN(WITH(ALEF(MAKSURA(FINAL+ISOLATED(FORM))) HAH(INITIAL+ISOLATED+MEDIAL(FORM)
   WITH(JEEM(INITIAL(FORM)))) HEH(INITIAL+MEDIAL(FORM)) JEEM(INITIAL+ISOLATED+MEDIAL(FORM) WITH(
   ALEF(MAKSURA(FINAL(FORM))) HAH(INITIAL(FORM)))) KHAH(INITIAL+ISOLATED+MEDIAL(FORM) WITH(ALEF(
   MAKSURA(FINAL(FORM))) YEH(FINAL(FORM)))) MEEM(INITIAL+ISOLATED+MEDIAL(FORM) WITH(HAH+MEEM(FINAL+
   INITIAL(FORM)) JEEM(INITIAL(FORM)))) REH+YEH(FINAL+ISOLATED(FORM)))) SHADDA(WITH(DAMMA+FATHA+
   KASRA(ISOLATED+MEDIAL(FORM)) DAMMATAN+KASRATAN(ISOLATED(FORM)) SUPERSCRIPT(ALEF(ISOLATED(
   FORM))))) SHEEN(WITH(ALEF(MAKSURA(FINAL+ISOLATED(FORM))) HAH(FINAL+INITIAL+ISOLATED+MEDIAL(FORM)
   WITH(MEEM(FINAL+INITIAL(FORM)) YEH(FINAL(FORM)))) HEH(INITIAL+MEDIAL(FORM)) JEEM(FINAL+INITIAL+
   ISOLATED+MEDIAL(FORM) WITH(YEH(FINAL(FORM)))) KHAH(FINAL+INITIAL+ISOLATED+MEDIAL(FORM)) MEEM(
   FINAL+INITIAL+ISOLATED+MEDIAL(FORM) WITH(KHAH+MEEM(FINAL+INITIAL(FORM)))) REH+YEH(FINAL+
   ISOLATED(FORM)))) SUBHAANAHU(WA(TAAALAA)) TABAARAKA(WA-TAAALAA) TAH(WITH(ALEF(MAKSURA(FINAL+
   ISOLATED(FORM))) HAH(INITIAL+ISOLATED(FORM)) MEEM(INITIAL+ISOLATED+MEDIAL(FORM) WITH(HAH(FINAL+
   INITIAL(FORM)) MEEM(INITIAL(FORM)) YEH(FINAL(FORM)))) YEH(FINAL+ISOLATED(FORM)))) TEH(WITH(ALEF(
   MAKSURA(FINAL+ISOLATED(FORM))) HAH(INITIAL+ISOLATED(FORM) WITH(JEEM(FINAL+INITIAL(FORM)) MEEM(
   INITIAL(FORM)))) HEH(INITIAL+MEDIAL(FORM)) JEEM+KHAH(INITIAL+ISOLATED(FORM) WITH(ALEF(MAKSURA(
   FINAL(FORM))) MEEM(INITIAL(FORM)) YEH(FINAL(FORM)))) MEEM(FINAL+INITIAL+ISOLATED+MEDIAL(FORM)
   WITH(ALEF(MAKSURA(FINAL(FORM))) HAH+JEEM+KHAH(INITIAL(FORM)) YEH(FINAL(FORM)))) NOON+REH+ZAIN(
   FINAL(FORM)) YEH(FINAL+ISOLATED(FORM)))) THEH(WITH(ALEF(MAKSURA(FINAL+ISOLATED(FORM))) HEH(
   MEDIAL(FORM)) JEEM(ISOLATED(FORM)) MEEM(FINAL+INITIAL+ISOLATED+MEDIAL(FORM)) NOON+REH+ZAIN(
   FINAL(FORM)) YEH(FINAL+ISOLATED(FORM)))) UIGHUR(KIRGHIZ(YEH(WITH(HAMZA(ABOVE(WITH(ALEF(MAKSURA(
   FINAL+INITIAL+ISOLATED(FORM)))))))))) YEH(WITH(ALEF(MAKSURA(FINAL+ISOLATED(FORM))) HAH+JEEM(
   INITIAL+ISOLATED(FORM) WITH(YEH(FINAL(FORM)))) HAMZA(ABOVE(WITH(AE+OE+U+WAW+YEH+YU(FINAL+
   ISOLATED(FORM)) ALEF(FINAL+ISOLATED(FORM) MAKSURA(FINAL+ISOLATED(FORM))) E(FINAL+INITIAL+
   ISOLATED(FORM)) HAH+JEEM(INITIAL+ISOLATED(FORM)) HEH(INITIAL+MEDIAL(FORM)) KHAH(INITIAL(FORM))
   MEEM(FINAL+INITIAL+ISOLATED+MEDIAL(FORM)) NOON+REH+ZAIN(FINAL(FORM))))) HEH(INITIAL+MEDIAL(
   FORM)) KHAH(INITIAL+ISOLATED(FORM)) MEEM(FINAL+INITIAL+ISOLATED+MEDIAL(FORM) WITH(MEEM(FINAL+
   INITIAL(FORM)) YEH(FINAL(FORM)))) NOON+REH+ZAIN(FINAL(FORM)) YEH(FINAL+ISOLATED(FORM)))) ZAH(
   WITH(MEEM(INITIAL+ISOLATED+MEDIAL(FORM))))) MADDA(WAAJIB) MADDAH(ABOVE) MARK(NOON(GHUNNA)
   SIDEWAYS(NOON(GHUNNA))) MATHEMATICAL(AIN ALEF BEH DAD DAL FEH GHAIN HAH JEEM KAF KHAH LAM MEEM
   NOON QAF REH SAD SEEN SHEEN TAH TEH THAL THEH WAW YEH ZAH ZAIN DOTLESS(BEH FEH NOON QAF)
   DOUBLE-STRUCK(AIN BEH DAD DAL FEH GHAIN HAH JEEM KHAH LAM MEEM NOON QAF REH SAD SEEN SHEEN TAH
   TEH THAL THEH WAW YEH ZAH ZAIN) INITIAL(AIN BEH DAD FEH GHAIN HAH HEH JEEM KAF KHAH LAM MEEM
   NOON QAF SAD SEEN SHEEN TEH THEH YEH) LOOPED(AIN ALEF BEH DAD DAL FEH GHAIN HAH HEH JEEM KHAH
   LAM MEEM NOON QAF REH SAD SEEN SHEEN TAH TEH THAL THEH WAW YEH ZAH ZAIN) OPERATOR(HAH(WITH(DAL))
   MEEM(WITH(HAH(WITH(TATWEEL))))) STRETCHED(AIN BEH DAD FEH GHAIN HAH HEH JEEM KAF KHAH MEEM NOON
   QAF SAD SEEN SHEEN TAH TEH THEH YEH ZAH DOTLESS(BEH FEH)) TAILED(AIN DAD GHAIN HAH JEEM KHAH LAM
   NOON QAF SAD SEEN SHEEN YEH DOTLESS(NOON QAF))) NUMBER(SIGN MARK(ABOVE)) OPEN(DAMMATAN FATHATAN
   KASRATAN) PERCENT(SIGN) PIASTRE+POUND(MARK(ABOVE)) PLACE(OF(SAJDAH)) POETIC(VERSE(SIGN))
   QUESTION(MARK) RIGHT(ARROWHEAD(BELOW ABOVE(.WITH(DOT)))) ROUNDED(HIGH(STOP(WITH(FILLED(
   CENTRE))))) SHADDA(.ISOLATED+MEDIAL(FORM)) SIGN(MISRA SAFHA SAMVAT SANAH TAKHALLUS ALAYHE(
   ASSALLAM) RADI(ALLAHOU(ANHU)) RAHMATULLAH(ALAYHE) SALLALLAHOU(ALAYHE(WASSALLAM)) SINDHI(
   AMPERSAND POSTPOSITION(MEN))) SMALL(DAMMA FATHA KASRA WAW YEH FARSI(YEH) HIGH(AIN JEEM MADDA QAF
   SAD SEEN TAH WAW ZAH ZAIN DOTLESS(HEAD(OF(KHAH))) FARSI(YEH) FOOTNOTE(MARKER) LAM(ALEF)
   LIGATURE(ALEF(WITH(LAM(WITH(YEH)))) QAF+SAD(WITH(LAM(WITH(ALEF(MAKSURA)))))) MEEM(INITIAL+
   ISOLATED(FORM)) NOON(.WITH(KASRA)) ROUNDED(ZERO) SIGN(SAFHA) THREE(DOTS) UPRIGHT(RECTANGULAR(
   ZERO)) WORD(AL-JUZ AN-NISF AR-RUB AS-SAJDA ATH-THALATHA QIF SAH SAKTA WAQFA) YEH(.BARREE(WITH(
   TWO(DOTS(BELOW)))))) LOW(MEEM SEEN WAW NOON(WITH(KASRA)) WORD(IMAALA ISHMAAM TASHEEL))) START(
   OF(RUB(EL(HIZB)))) SUBSCRIPT(ALEF) SUKUN(.BELOW ISOLATED+MEDIAL(FORM)) SUPERSCRIPT(ALEF(
   MOKHASSAS)) SYMBOL(RING DOT(ABOVE BELOW) DOUBLE(VERTICAL(BAR(BELOW))) FOUR(DOTS(ABOVE BELOW))
   SMALL(TAH(ABOVE BELOW)) THREE(DOTS(ABOVE BELOW POINTING(DOWNWARDS(ABOVE BELOW)))) TWO(DOTS(ABOVE
   BELOW VERTICALLY(ABOVE BELOW))) WASLA(ABOVE)) TAIL(FRAGMENT) TATWEEL(.WITH(FATHATAN(ABOVE)
   OVERSTRUCK(HAMZA WAW) TWO(DOTS(BELOW)))) TONE(LOOP(ABOVE BELOW) ONE(DOT(ABOVE BELOW)) TWO(DOTS(
   ABOVE BELOW))) TRIPLE(DOT(PUNCTUATION(MARK))) TURNED(DAMMA(BELOW)) VERTICAL(TAIL) VOWEL(SIGN(
   DOT(BELOW) INVERTED(SMALL(V(ABOVE))) SMALL(V(ABOVE)))) WAVY(HAMZA(BELOW))) ARABIC-INDIC(CUBE+
   FOURTH(ROOT) DIGIT(EIGHT FIVE FOUR NINE ONE SEVEN SIX THREE TWO ZERO) PER(MILLE(SIGN) TEN(
   THOUSAND(SIGN)))) ARMENIAN(APOSTROPHE COMMA HYPHEN ABBREVIATION+EMPHASIS+EXCLAMATION+QUESTION(
   MARK) CAPITAL(LETTER(AYB BEN CA CHA CHEH CO DA ECH EH ET FEH GHAD GIM HO INI JA JHEH KEH KEN
   LIWN MEN NOW OH PEH PIWR RA REH SEH SHA TIWN TO VEW VO XEH YI YIWN ZA ZHE)) DRAM(SIGN) FULL(
   STOP) MODIFIER(LETTER(LEFT(HALF(RING)))) SMALL(LETTER(AYB BEN CA CHA CHEH CO DA ECH EH ET FEH
   GHAD GIM HO INI JA JHEH KEH KEN LIWN MEN NOW OH PEH PIWR RA REH SEH SHA TIWN TO VEW VO XEH YIWN
   ZA ZHE TURNED(AYB) YI(.WITH(STROKE))) LIGATURE(ECH(YIWN) MEN(ECH INI NOW XEH) VEW(NOW)))) ARROW(
   POINTING(DOWNWARDS(THEN(CURVING(LEFTWARDS RIGHTWARDS))) RIGHTWARDS(THEN(CURVING(DOWNWARDS
   UPWARDS SOUTH(WEST)))) UPWARDS(THEN(NORTH(WEST))))) ARROWHEAD-SHAPED(POINTER) ARTICULATED(LORRY)
   ARTIST(PALETTE) ASCENDING+DESCENDING(NODE) ASTERISK+BULLET(.OPERATOR) ASTRONOMICAL(SYMBOL(FOR(
   URANUS))) ASYMPTOTICALLY+DELTA+QUESTIONED(EQUAL(TO)) ATHLETIC+FLAT+HIGH-HEELED+MANS(SHOE) AUTO(
   RICKSHAW) AUTOMATED(TELLER(MACHINE)) AVESTAN(ABBREVIATION(MARK) LETTER(A AA AAN AAO AE AEE AN AO
   BE BHE CE DE DHE E EE FE GE GGE GHE HE HME I II JE KE LE ME NE NGE NGVE NGYE NNE NYE O OO PE RE
   SE SHE SHYE SSHE TE THE TTE U UU VE XE XVE XYE YE YYE ZE ZHE)) BABY(.ANGEL BOTTLE CHICK SYMBOL)
   BACK(OF(ENVELOPE) WITH(LEFTWARDS(ARROW(ABOVE)))) BACK-TILTED+FRONT-TILTED(SHADOWED(WHITE(
   RIGHTWARDS(ARROW)))) BACKSLANTED(SOUTH(ARROW(WITH(HOOKED+HORIZONTAL(TAIL))))) BACTRIAN+
   DROMEDARY(CAMEL) BADMINTON(RACQUET(AND(SHUTTLECOCK))) BAGGAGE(CLAIM) BAGUETTE(BREAD) BALINESE(
   PAMENENG WINDU ADEG(ADEG) CARIK(PAMUNGKAH PAREREN SIKI) DIGIT(EIGHT FIVE FOUR NINE ONE SEVEN SIX
   THREE TWO ZERO) LETTER(AIKARA EKARA HA MA NGA NYA WA YA AKARA+IKARA+OKARA+UKARA(.TEDUNG)
   ARCHAIC(JNYA) ASYURA+EF+KAF+KHOT+TZIR+VE+ZAL(SASAK) BA(.KEMBANG) CA(.LACA) DA(.MADU MURDA(
   ALPAPRANA MAHAPRANA)) GA(.GORA) JA(.JERA) KA(.MAHAPRANA) LA(.LENGA(.TEDUNG)) NA(.RAMBAT) PA(
   .KAPAL) RA(.REPA(.TEDUNG)) SA(.SAGA SAPA) TA(.LATIK TAWA MURDA(MAHAPRANA))) MUSICAL(SYMBOL(DAENG
   DAING DENG DEUNG DING DONG DUNG COMBINING(BENDE ENDEP GONG JEGOGAN TEGEH KEMPLI+KEMPUL(.WITH(
   JEGOGAN))) DANG(.GEDE SURANG) LEFT-HAND(CLOSED(PLAK PLUK) OPEN(PANG PING PUNG)) RIGHT-HAND(
   CLOSED(TAK TUK) OPEN(DAG DUG)))) PAMADA+PANTI(.LANTANG) SIGN(BISAH CECEK REREKAN SURANG ULU(
   CANDRA RICEM)) VOWEL(SIGN(TEDUNG LA(LENGA(.TEDUNG)) PEPET(.TEDUNG) RA(REPA(.TEDUNG)) SUKU(.ILUT)
   TALING(.TEDUNG REPA(.TEDUNG)) ULU(.SARI)))) BALL(OF(YARN)) BALLET(SHOES) BALLOON-SPOKED+
   SLAVONIC+TEARDROP-SPOKED(ASTERISK) BALLOT(X BOLD(SCRIPT(X)) BOX(.WITH(BALLOT CHECK X BOLD(CHECK
   SCRIPT(X)) LIGHT+SCRIPT(X))) SCRIPT(X)) BAMUM(COLON COMMA NJAEMLI SEMICOLON COMBINING(MARK(
   KOQNDON TUKWENTIS)) FULL(STOP) LETTER(A EE FAAMAE FEE FOM FU I KA KEN KET KEUX KI KO KOGHOM
   KOVUU KPA KU KYEE LA LEEEE LI LOQ LU M MA MBAA MBEN MEEEE MEN MI MO MU NA NDAA NGA NGGA NGKWAEN
   NI NJAEM NJEE NJUAE NSHA NTEE NTUU NU NUAE NYI O PA PEE PEUX PI PUAE PUE RAE REE REN REUX RIEE
   RII RU SAMBA SEUX SHEUX SHII SHO SHU SI SUU TAA TAE TEN TET TI U WA WUE YA YOQ YUQ PHASE-A(FIRI
   GHEUAEGHEUAE GHEUAERAE KAFA KAQ KET KEUKEUTNDA KPOQ KUOQ LAPAQ LOMMAE LU LUAEP MAEKEUP MAEM
   MAEMBGBIEE MAEMKPEN MAEMVEUX MAENYI MAESI MANSUAE MBANYI MBAQ MEUNJOMNDEUQ MGBASA MOOMEUT
   MOOMPUQ MVEUAENGAM NAQ NDAANGGEUAET NEN NGANGU NGGEN NGKUENZEUM NIKA NJAM NKAARAE NKINDI NSHA
   NSHIEE NTOQPEN NYET NYI PAAM PAARAE PAMSHAE PASHAE PET PUP ROM SEUNYAM SHIRAE SHUENSHUET SHUM
   SISA SONJAM SOQ SOT SUU TEUAEN TEUTEUWEN TUAEP UNKNOWN VEE GBIEE(FON) LET(KUT) MAP(PIEET) MON(
   NGGEUAET) NAA+NGKUE+NZA+TITA(MFON) NDA+PA(LEERAEWA) NTAP(.MFAA NTAA) NYIT(MONGKEUAEQ) NZUN(MEUT)
   PON(MFON(PIPAEMBA PIPAEMGBIEE) PA(NJI(PIPAEMBA PIPAEMGBIEE))) SHINDA(PA(NJI)) SHOQ(NSHUT(YUM))
   TU(MAEMBA) U(YUQ(NAE))) PHASE-B(FEE FEUX GHEUGHEN GHEUGHEUAEM KAM KEUAEM KEUPUQ KEUYEUX KIEEM
   KIQ LAANAE LET MBAARAE MBEURI MBUOQ MEUQ MFIYAQ MONTIEEN NGGAAM NGOM NSEN NSHUET NYAEMAE PARUM
   PEESHI PIT PUNGAAM SAKEUAE SHEUAEQTU SIEE SUE TAAM VEUM WUAET YEURAE LAM(NSHUT(NYAM)) LOM+NYI(
   NTEUM) MA(.NJEUAENA NJUQA) MBA(MAELEE) MBIT(MBAAKET) MEUT(NGGEET) MFON(TEUAEQ) NDU(NJAA) NGGEU(
   MBU) NGGUOQ(.LARGE) NGKINDI(MVOP) NTIEE(SHEUOQ) SET(TU) SHET(NJAQ) TU(MAEMGBIEE NSIEE) YAFU(
   LEERAEWA)) PHASE-C(BUNG FUE GBAYI GHAP GHARAE KAA KET KEUKAQ KEUM KEUSEUX KEUSHEUAEP KPARAQ KUT
   LAM LAP LIQ LU MAEMBA MAESI MBANYI MBEEKEET MBERAE MBEUM MBEUX MBI MBIRIEEN MBIT MBUAEM MBUE
   MGBASAQ MIEE MUAE NANSANAQ NAQ NDAM NDAP NDEUAEREE NDEUT NDIDA NDOMBU NGAQ NGGEN NGGU NGGUEET
   NGGUM NGGUON NGKAQ NGOM NJAEM NJAM NJEEEE NJEUX NJUEQ NSA NSEUAEN NSHAQ NSOM NSUN NTAA NTEN
   NTEUNGBA NZA NZEUM PEN PIN PIRIEEN RU SETFON SEUX SHIQ SHUEQ SUAET TAASHAE TET TEUTEUX TITUAEP
   VEUAEPEN VEUX WANGKUOQ WUP YAA YEUQ YUM YUWOQ KEN(FATIGUE LAW) KUOP(NKAARAE) MA(KEUAERI NSIEE)
   MBAA(CABBAGE-TREE PICKET) NGGUAEN(NYAM) NGKUE(MAEMBA) NSUOT(NGOM) NTU(MBIT) NYIR(MKPARAQ(MEUN))
   TITA(YUE) YU(MUOMAE)) PHASE-D(FAA FEUFEUAET GHAA GHEUAE KET KEUAETMEUN KEUM KEUP KU KUN KUOM KUQ
   KWAET KYEE LEEEE LET LEUAEP LEUM LIEE LOQ LUM M MAENJET MALEERI MBUO MEEEE MEUN MEUT MFEUAE
   MFEUT MFIEE MFO MFON MGBEUN MGBIEE MGBOFUM MONI MU MVOP NDAM NDEE NDEUX NDON NGGAAM NGGAAMAE
   NGGAP NGGEUX NGGUOM NGGWAEN NGKAP NGKEUAEQ NGKEURI NGKIEE NGKUN NGKYEE NI NJAP NJEUAEM NJEUT NJI
   NJIEE NJUEQ NSHEE NSHUT NSIEEP NSIEET NSUM NTEE NTEUM NTUU NU NYAM NYET NYI NYUE PAP PEE PEUTAE
   PIP PUQ PUUT RAEM RII SAP SAQ SEUAEQ SHEE SHEUAE SHEUX SHII SHOQ SHU SOT SUAE SUE SUU TAE TEEEE
   TEUAEN TEUN TEUT TI TOQ TU TUOT WAP WUAEN YAEMMAE YEN YUOM YUOP YUWOQ KEUOT(MBUAE) MBAA(.SEVEN)
   REN(MUCH OLD)) PHASE-E(A FA FAQ FEE FOM FUE FUET GBET GBEUX GHAAMAE GHET GHEUAE GHEUN GHEUX GHOM
   I KET KEUAE KEUX KI KO KPEUX KUET KUOP KUT LAAM LAP LAQ LEUAEM LOM LOON LOOT LOQ LU MA MAE MAEM
   MAP MAQ MBEE MBEUM MEN MFEUQ MGBA MGBEN MI MIEE MON MUAE MVI NA NAE NDAP NDIAQ NDIQ NDUN NGA
   NGEUREUT NGGEEEE NGGEUAE NGGEUAET NGGUP NGGURAE NGKA NGKAAMI NGKEUAEM NGKEUX NGKUM NGKUP NGOP
   NGOQ NGUAE NGUAET NJAEMLI NJEUX NKOM NSHIEE NSHUE NSHUOP NTAP NTUM NZAQ NZUQ O PAA PAAM PEEM
   PEUT PEUX PI PIEEQ PIET PO POON PU PUAE PUAQ PUE PUM RAE RAQ REUX RIMGBA SAA SEE SET SHEUAEQ
   SHIQ SHO SHOQ SOM SUAEN TAA TAAQ TAM TAQ TEN TEU TEUAEQ TOO TOON TOQ TUAE TUM TUMAE VEE VEUAE
   VOM WEUX WUE WUO YAP YEUAE YEUAET YEUM YEUX YIEE YIT YUAEN YUEQ YUN YUQ FU(CALL I REMEDY) NDAA(
   SOFTNESS MY(HOUSE)) NGGUAESHAE(NYAM) NJEE(.EPOCH) NYI(BETWEEN CLEAVER) PA(PEOPLE PLURAL) TAEN(
   NTEUM) YOQ(COVER SWIMMING)) PHASE-F(EE FOM KA KEN KET KO KPA KU KYEE LA LI LOQ M MA MBAA MBEN
   MEEEE MO NDAA NGGA NGKWAEN NI NJAEM NJUAE NSHA NTEE NU NUAE NYI PEE PEUX PUAE REE REN REUX RIEE
   RII RU SAMBA SEUX SHII SHO SHU SI SUU TAA TAE TET U VUEQ WA WUE YA YOQ)) QUESTION(MARK))
   BANKNOTE(WITH(DOLLAR+EURO+POUND+YEN(SIGN))) BAR(CHART OF(SOAP)) BARBER(POLE) BASKETBALL(AND(
   HOOP)) BASSA(VAH(COMBINING(HIGH+HIGH-LOW+LOW+LOW-MID+MID(TONE)) FULL(STOP) LETTER(A BA CE DHII
   DO E EE ENNI FA GAH GBU HWAH I JO KA KPAH MBE O OO PA SE TO U UWU VU WA WADDA YEIN YIE ZO)))
   BATAK(PANGOLAT PANONGONAN CONSONANT(SIGN(H NG)) LETTER(A BA CA DA GA HA I JA LA MA MBA NA NDA
   NGA NYA PA RA SA U WA YA KARO(BA) MANDAILING(HA NA SA) NORTHERN+SOUTHERN(TA) PAKPAK(WA)
   SIMALUNGUN(A GA HA LA MA PA RA SA WA YA)) SIGN(TOMPI) SYMBOL(BINDU(JUDUL PANGOLAT PINARBORAS NA(
   METEK))) VOWEL(SIGN(E EE I O KARO(I O) PAKPAK(E) U(.FOR(SIMALUNGUN(SA)))))) BEACH(WITH(
   UMBRELLA)) BEAMED(ASCENDING+DESCENDING(MUSICAL(NOTES)) EIGHTH+SIXTEENTH(NOTES)) BEARDED+DEAF+
   KNEELING+STANDING(PERSON) BEER(MUG) BELL(.PEPPER SYMBOL WITH(CANCELLATION(STROKE))) BELLHOP+
   RINGING(BELL) BENGALI(ANJI ISSHAR ABBREVIATION(SIGN) AU(LENGTH(MARK)) CURRENCY(DENOMINATOR(
   SIXTEEN) NUMERATOR(FOUR THREE TWO ONE(.LESS(THAN(THE(DENOMINATOR)))))) DIGIT(EIGHT FIVE FOUR
   NINE ONE SEVEN SIX THREE TWO ZERO) GANDA+SANDHI(MARK) LETTER(A AA AI AU BA BHA CA CHA DA DDA
   DDHA DHA E GA GHA HA I II JA JHA KA KHA LA MA NA NGA NNA NYA O PA PHA RHA RRA SA SHA SSA TA THA
   TTA TTHA U UU YA YYA KHANDA(TA) RA(.WITH(LOWER+MIDDLE(DIAGONAL))) VEDIC(ANUSVARA) VOCALIC(L LL R
   RR)) RUPEE(MARK SIGN) SIGN(ANUSVARA AVAGRAHA CANDRABINDU NUKTA VIRAMA VISARGA) VOWEL(SIGN(AA AI
   AU E I II O U UU VOCALIC(L LL R RR)))) BENT(ARROW(POINTING(DOWNWARDS(THEN(NORTH(EAST))))))
   BENTO+BEVERAGE+TAKEOUT(BOX) BENZENE(RING(.WITH(CIRCLE))) BHAIKSUKI(DANDA DIGIT(EIGHT FIVE FOUR
   NINE ONE SEVEN SIX THREE TWO ZERO) DOUBLE(DANDA) GAP(FILLER-1~2) HUNDREDS(UNIT(MARK)) LETTER(A
   AA AI AU BA BHA CA CHA DA DDA DDHA DHA E GA GHA HA I II JA JHA KA KHA LA MA NA NGA NNA NYA O PA
   PHA RA SA SHA SSA TA THA TTA TTHA U UU VA YA VOCALIC(L R RR)) NUMBER(EIGHT EIGHTY FIFTY FIVE
   FORTY FOUR NINE NINETY ONE SEVEN SEVENTY SIX SIXTY TEN THIRTY THREE TWENTY TWO) SIGN(ANUSVARA
   AVAGRAHA CANDRABINDU VIRAMA VISARGA) VOWEL(SIGN(AA AI AU E I II O U UU VOCALIC(L R RR))) WORD(
   SEPARATOR)) BIG(SOLIDUS REVERSE(SOLIDUS)) BILLED+GRADUATION(CAP) BIRTHDAY(CAKE) BITING(LIP)
   BLACK(BOWTIE DROPLET FLAG FLORETTE FOLDER HEXAGON HOURGLASS LOZENGE NIB OCTAGON PARALLELOGRAM
   PENNANT PENTAGON PUSHPIN RECTANGLE ROSETTE SCISSORS SNOWMAN STAR TELEPHONE TRUCK CENTRE(WHITE(
   STAR)) CHESS(KNIGHT-BISHOP KNIGHT-QUEEN KNIGHT-ROOK BISHOP+KING+PAWN+QUEEN+ROOK(.ROTATED(NINETY(
   DEGREES) TWO(HUNDRED(SEVENTY(DEGREES))))) EQUIHOPPER(.ROTATED(NINETY(DEGREES))) KNIGHT(.ROTATED(
   FORTY-FIVE+NINETY(DEGREES) ONE(HUNDRED(THIRTY-FIVE(DEGREES))) THREE(HUNDRED(FIFTEEN(DEGREES)))
   TWO(HUNDRED(SEVENTY+TWENTY-FIVE(DEGREES))))) TURNED(BISHOP KING KNIGHT PAWN QUEEN ROOK)) CIRCLE(
   .FOR(RECORD) WITH(DOWN(ARROW) TWO(WHITE(DOTS)) WHITE(DOT(RIGHT)))) CLUB+SPADE(SUIT) CROSS(ON(
   SHIELD)) CURVED(DOWNWARDS+UPWARDS(AND(LEFTWARDS+RIGHTWARDS(ARROW))) LEFTWARDS+RIGHTWARDS(AND(
   DOWNWARDS+UPWARDS(ARROW)))) DIAMOND(.CENTRED SUIT MINUS(WHITE(X)) ON(CROSS) WITH(DOWN(ARROW)))
   DOWN+UP(POINTING(BACKHAND(INDEX))) DOWN-POINTING+UP-POINTING(TRIANGLE DOUBLE+SMALL(TRIANGLE)
   ISOSCELES(RIGHT(TRIANGLE))) DOWNWARDS+UPWARDS(EQUILATERAL(ARROWHEAD)) DRAUGHTS(KING MAN) FOUR(
   POINTED(STAR)) HARD(SHELL(FLOPPY(DISK))) HEART(.SUIT) HORIZONTAL(ELLIPSE) LARGE(CIRCLE SQUARE)
   LEFT(LANE(MERGE) POINTING(INDEX BACKHAND(INDEX))) LEFT-POINTING(POINTER TRIANGLE DOUBLE(
   TRIANGLE(.WITH(VERTICAL(BAR)))) ISOSCELES(RIGHT(TRIANGLE)) SMALL(TRIANGLE)) LEFTWARDS(BULLET
   EQUILATERAL(ARROWHEAD)) LOWER+UPPER(LEFT+RIGHT(TRIANGLE)) MEDIUM(DIAMOND LOZENGE SQUARE
   DOWN-POINTING+LEFT-POINTING+RIGHT-POINTING+UP-POINTING(TRIANGLE(.CENTRED)) SMALL(DIAMOND LOZENGE
   SQUARE)) MOON(LILITH) QUESTION(MARK(ORNAMENT)) RIGHT(POINTING(INDEX BACKHAND(INDEX)))
   RIGHT-POINTING(PENTAGON POINTER DOUBLE(TRIANGLE(.WITH(VERTICAL(BAR)))) ISOSCELES(RIGHT(
   TRIANGLE)) SMALL(TRIANGLE) TRIANGLE(.WITH(DOUBLE(VERTICAL(BAR))))) RIGHTWARDS(ARROW ARROWHEAD
   BULLET EQUILATERAL(ARROWHEAD)) SAFETY(SCISSORS) SHOGI(PIECE) SKULL(AND(CROSSBONES)) SLIGHTLY(
   SMALL(CIRCLE SQUARE)) SMALL(DIAMOND LOZENGE SQUARE STAR) SMILING(FACE) SQUARE(.BUTTON CENTRED
   FOR(STOP)) SUN(WITH(RAYS)) TINY(DIAMOND LOZENGE SQUARE) TOUCHTONE(TELEPHONE) TWO-WAY(LEFT(WAY(
   TRAFFIC))) UNIVERSAL(RECYCLING(SYMBOL)) VERTICAL(ELLIPSE RECTANGLE) VERY(SMALL(DIAMOND LOZENGE
   SQUARE))) BLACK-FEATHERED(NORTH+SOUTH(EAST(ARROW)) RIGHTWARDS(ARROW)) BLACK-LETTER(CAPITAL(C H I
   R Z)) BLOCK(SEXTANT-1~6 SEXTANT-12~16 SEXTANT-123~126 SEXTANT-1234~1236 SEXTANT-12345~12346
   SEXTANT-12356 SEXTANT-1245~1246 SEXTANT-12456 SEXTANT-1256 SEXTANT-134 SEXTANT-1345~1346
   SEXTANT-13456 SEXTANT-1356 SEXTANT-136 SEXTANT-145~146 SEXTANT-1456 SEXTANT-156 SEXTANT-23~26
   SEXTANT-234~236 SEXTANT-2345~2346 SEXTANT-23456 SEXTANT-2356 SEXTANT-245 SEXTANT-2456
   SEXTANT-256 SEXTANT-34~36 SEXTANT-345~346 SEXTANT-3456 SEXTANT-356 SEXTANT-45~46 SEXTANT-456
   SEXTANT-56) BLUE+ORANGE(BOOK HEART) BOLD(SALTIRE EIGHT+FIVE+SIX(SPOKED(ASTERISK)) GREEK(CROSS)
   WHITE(CIRCLE SQUARE)) BOOKMARK(.TABS) BOPOMOFO(FINAL(LETTER(G H K P T)) LETTER(A AH AI AINN AM
   AN ANG ANN AU AUNN B BU C CH D E EE EH EI EN ENG ENN ER F G GH GN GU GW H I IH IM INN INNN IR IU
   J JI K KW L LH M N NG NGG NN OE OM ONG ONN OO OU P Q R S SH T U UNN V X Z ZH ZI ZY O(.WITH(DOT(
   ABOVE))))) BOTTLE(WITH(POPPING(CORK))) BOTTOM(PARENTHESIS ARC(ANTICLOCKWISE(ARROW)) CURLY(
   BRACKET) HALF(INTEGRAL BLACK(CIRCLE) LEFT+RIGHT(PARENTHESIS)) LEFT+RIGHT(CORNER CROP HALF(
   BRACKET)) SQUARE(BRACKET(.OVER(TOP(SQUARE(BRACKET))))) TORTOISE(SHELL(BRACKET))) BOUQUET(.OF(
   FLOWERS)) BOW(AND(ARROW)) BOWL(OF(HYGIEIA) WITH(SPOON)) BOWTIE(.WITH(LEFT+RIGHT(HALF(BLACK))))
   BOX(DRAWINGS(DOUBLE(HORIZONTAL DOWN+UP(AND(HORIZONTAL LEFT RIGHT)) VERTICAL(.AND(HORIZONTAL LEFT
   RIGHT))) DOWN(DOUBLE(AND(HORIZONTAL+LEFT+RIGHT(SINGLE))) HEAVY(AND(HORIZONTAL(LIGHT) LEFT+RIGHT(
   LIGHT UP(LIGHT)) UP(HORIZONTAL(LIGHT)))) LIGHT(AND(HORIZONTAL(HEAVY) LEFT+RIGHT(HEAVY UP(HEAVY))
   UP(HORIZONTAL(HEAVY)))) SINGLE(AND(HORIZONTAL+LEFT+RIGHT(DOUBLE)))) HEAVY(HORIZONTAL RIGHT
   DOUBLE+QUADRUPLE+TRIPLE(DASH(HORIZONTAL VERTICAL)) DOWN+VERTICAL(.AND(HORIZONTAL LEFT RIGHT))
   LEFT(.AND(LIGHT(RIGHT))) UP(.AND(HORIZONTAL LEFT RIGHT LIGHT(DOWN)))) LEFT(DOWN(HEAVY(AND(RIGHT(
   UP(LIGHT))))) HEAVY(AND(RIGHT(DOWN+UP+VERTICAL(LIGHT)))) LIGHT(AND(RIGHT(DOWN+UP+VERTICAL(
   HEAVY)))) UP(HEAVY(AND(RIGHT(DOWN(LIGHT)))))) LIGHT(RIGHT ARC(DOWN+UP(AND(LEFT RIGHT)))
   DIAGONAL(CROSS DIAMOND MIDDLE(LEFT(TO(LOWER(CENTRE(.TO(MIDDLE(RIGHT)))) UPPER(CENTRE(TO(MIDDLE(
   RIGHT(.TO(LOWER(CENTRE))))))))) RIGHT(TO(LOWER(CENTRE) UPPER(CENTRE(TO(MIDDLE(LEFT(TO(LOWER(
   CENTRE)))))))))) UPPER(CENTRE(TO(MIDDLE(LEFT(.AND(MIDDLE(RIGHT(TO(LOWER(CENTRE))))) TO(LOWER(
   CENTRE(.TO(MIDDLE(RIGHT)))))) RIGHT(.AND(MIDDLE(LEFT(TO(LOWER(CENTRE))))) TO(LOWER(CENTRE(.TO(
   MIDDLE(LEFT))))))))) LEFT(TO(LOWER(RIGHT))) RIGHT(TO(LOWER(LEFT))))) DOUBLE+QUADRUPLE+TRIPLE(
   DASH(HORIZONTAL VERTICAL)) DOWN+VERTICAL(.AND(HORIZONTAL LEFT RIGHT)) HORIZONTAL(.WITH(VERTICAL(
   STROKE))) LEFT(.AND(HEAVY(RIGHT))) UP(.AND(HORIZONTAL LEFT RIGHT HEAVY(DOWN)))) RIGHT(DOWN(
   HEAVY(AND(LEFT(UP(LIGHT))))) HEAVY(AND(LEFT(DOWN+UP+VERTICAL(LIGHT)))) LIGHT(AND(LEFT(DOWN+UP+
   VERTICAL(HEAVY)))) UP(HEAVY(AND(LEFT(DOWN(LIGHT)))))) UP(DOUBLE(AND(HORIZONTAL+LEFT+RIGHT(
   SINGLE))) HEAVY(AND(DOWN(HORIZONTAL(LIGHT)) HORIZONTAL(LIGHT) LEFT+RIGHT(LIGHT DOWN(LIGHT))))
   LIGHT(AND(DOWN(HORIZONTAL(HEAVY)) HORIZONTAL(HEAVY) LEFT+RIGHT(HEAVY DOWN(HEAVY)))) SINGLE(AND(
   HORIZONTAL+LEFT+RIGHT(DOUBLE)))) VERTICAL(DOUBLE(AND(HORIZONTAL+LEFT+RIGHT(SINGLE))) HEAVY(AND(
   HORIZONTAL+LEFT+RIGHT(LIGHT))) LIGHT(AND(HORIZONTAL+LEFT+RIGHT(HEAVY))) SINGLE(AND(HORIZONTAL+
   LEFT+RIGHT(DOUBLE)))))) BOXING(GLOVE) BRAHMI(DANDA VIRAMA DIGIT(EIGHT FIVE FOUR NINE ONE SEVEN
   SIX THREE TWO ZERO) DOUBLE(DANDA) LETTER(A AA AI AU BA BHA CA CHA DA DDA DDHA DHA E GA GHA HA I
   II JA JHA KA KHA LA LLA MA NA NGA NNA NYA O PA PHA RA SA SHA SSA TA THA TTA TTHA U UU VA YA OLD(
   TAMIL(LLA LLLA NNNA RRA SHORT(E O))) VOCALIC(L LL R RR)) NUMBER(EIGHT EIGHTY FIFTY FIVE FORTY
   FOUR JOINER NINE NINETY SEVEN SEVENTY SIX SIXTY TEN THIRTY THREE TWENTY TWO ONE(.HUNDRED
   THOUSAND)) PUNCTUATION(DOT LINE LOTUS CRESCENT(BAR) DOUBLE(DOT)) SIGN(ANUSVARA CANDRABINDU
   JIHVAMULIYA UPADHMANIYA VISARGA OLD(TAMIL(VIRAMA))) VOWEL(SIGN(AA AI AU E I II O U UU
   BHATTIPROLU(AA) OLD(TAMIL(SHORT(E O))) VOCALIC(L LL R RR)))) BRAILLE(PATTERN(BLANK DOTS-1~8
   DOTS-12~18 DOTS-123~128 DOTS-1234~1238 DOTS-12345~12348 DOTS-123456~123458 DOTS-1234567~1234568
   DOTS-12345678 DOTS-1234578 DOTS-123467~123468 DOTS-1234678 DOTS-123478 DOTS-12356~12358
   DOTS-123567~123568 DOTS-1235678 DOTS-123578 DOTS-12367~12368 DOTS-123678 DOTS-12378
   DOTS-1245~1248 DOTS-12456~12458 DOTS-124567~124568 DOTS-1245678 DOTS-124578 DOTS-12467~12468
   DOTS-124678 DOTS-12478 DOTS-1256~1258 DOTS-12567~12568 DOTS-125678 DOTS-12578 DOTS-1267~1268
   DOTS-12678 DOTS-1278 DOTS-134~138 DOTS-1345~1348 DOTS-13456~13458 DOTS-134567~134568
   DOTS-1345678 DOTS-134578 DOTS-13467~13468 DOTS-134678 DOTS-13478 DOTS-1356~1358 DOTS-13567~13568
   DOTS-135678 DOTS-13578 DOTS-1367~1368 DOTS-13678 DOTS-1378 DOTS-145~148 DOTS-1456~1458
   DOTS-14567~14568 DOTS-145678 DOTS-14578 DOTS-1467~1468 DOTS-14678 DOTS-1478 DOTS-156~158
   DOTS-1567~1568 DOTS-15678 DOTS-1578 DOTS-167~168 DOTS-1678 DOTS-178 DOTS-23~28 DOTS-234~238
   DOTS-2345~2348 DOTS-23456~23458 DOTS-234567~234568 DOTS-2345678 DOTS-234578 DOTS-23467~23468
   DOTS-234678 DOTS-23478 DOTS-2356~2358 DOTS-23567~23568 DOTS-235678 DOTS-23578 DOTS-2367~2368
   DOTS-23678 DOTS-2378 DOTS-245~248 DOTS-2456~2458 DOTS-24567~24568 DOTS-245678 DOTS-24578
   DOTS-2467~2468 DOTS-24678 DOTS-2478 DOTS-256~258 DOTS-2567~2568 DOTS-25678 DOTS-2578
   DOTS-267~268 DOTS-2678 DOTS-278 DOTS-34~38 DOTS-345~348 DOTS-3456~3458 DOTS-34567~34568
   DOTS-345678 DOTS-34578 DOTS-3467~3468 DOTS-34678 DOTS-3478 DOTS-356~358 DOTS-3567~3568
   DOTS-35678 DOTS-3578 DOTS-367~368 DOTS-3678 DOTS-378 DOTS-45~48 DOTS-456~458 DOTS-4567~4568
   DOTS-45678 DOTS-4578 DOTS-467~468 DOTS-4678 DOTS-478 DOTS-56~58 DOTS-567~568 DOTS-5678 DOTS-578
   DOTS-67~68 DOTS-678 DOTS-78)) BREAK(PERMITTED(HERE)) BRIDE(WITH(VEIL)) BRIDGE(AT(NIGHT)) BROKEN(
   BAR HEART CIRCLE(WITH(NORTHWEST(ARROW)))) BUBBLE(TEA) BUGINESE(PALLAWA END(OF(SECTION)) LETTER(A
   BA CA DA GA HA JA KA LA MA MPA NA NGA NGKA NRA NYA NYCA PA RA SA TA VA YA) VOWEL(SIGN(AE E I O
   U))) BUHID(LETTER(A BA DA GA HA I KA LA MA NA NGA PA RA SA TA U WA YA) VOWEL(SIGN(I U)))
   BUILDING(CONSTRUCTION) BULLHORN(.WITH(SOUND(WAVES))) BUS(.STOP) BUST+BUSTS(IN(SILHOUETTE)) BYTE(
   ORDER(MARK)) BYZANTINE(MUSICAL(SYMBOL(ANATRICHISMA ANTIKENOKYLISMA ANTIKENOMA APLI APOTHEMA
   ARGON ARGOSYNTHETON CHAMILI CHAMILON DASEIA DIARGON DYO EKSTREPTON ELAFRON ENDOFONON EPEGERMA
   GORGOSYNTHETON GRONTHISMATA ICHADIN IMIDIARGON IMIFONON IMIFTHORA IMIFTHORON KATAVASMA KATHISTI
   KORONIS KOUFISMA KRATIMATA KRATIMOKOUFISMA KRATIMOYPORROON KREMASTI KYLISMA LEMOI LYGISMA NANA
   OMALON PARICHON PERISPOMENI PETASMA PETASTI PETASTOKOUFISMA PSIFISTOLYGISMA PSIFISTOPARAKALESMA
   PSIFISTOSYNAGMA PSILI PSILON RAPISMA REVMA SAXIMATA STIGMA STRAGGISMATA SYNEVMA SYRMA SYRMATIKI
   TELEIA TESSERA TETRAPLI THITA TINAGMA TRIA TRIGORGON TRIPLI TROMIKOLYGISMA TROMIKOPARAKALESMA
   TROMIKOPSIFISTON TROMIKOSYNAGMA VATHY YPORROI YPSILI AGOGI(ARGI ARGOTERI GORGI GORGOTERI MESI
   METRIA POLI(ARGI GORGI)) APESO(EKFONITIKON EXO(NEO)) APODERMA+CHOREVMA+ISON+OLIGON+OYRANISMA+
   PARAKALESMA+PIASMA(ARCHAION NEO) APOSTROFOI(SYNDESMOS(NEO) TELOUS(ICHIMATOS)) APOSTROFOS(.DIPLI
   NEO) ARKTIKO(DI GA KE NI PA VOU ZO) CHROA(KLITON SPATHI ZYGOS) DIASTOLI(DIPLI THESEOS APLI(
   MEGALI MIKRI)) DIESIS(TETARTIMORION TRITIMORION APLI(DYO(DODEKATA)) DIGRAMMOS(EX(DODEKATA))
   MONOGRAMMOS(TESSERA(DODEKATA)) TRIGRAMMOS(OKTO(DODEKATA))) DIFTOGGOS(OU) DIGORGON(
   .PARESTIGMENON(DEXIA ARISTERA(ANO KATO))) DIGRAMMA(GG) DIPLI(.ARCHAION) ENARXIS(KAI(FTHORA(
   VOU))) ETERON(ARGOSYNTHETON PARAKALESMA) EXO(EKFONITIKON) FANEROSIS(DIFONIAS MONOFONIAS
   TETRAFONIAS) FHTORA(SKLIRON(CHROMA(VASIS))) FTHORA(NENANO ARCHAION(.DEYTEROU(ICHOU)) DIATONIKI(
   DI KE NANA PA ZO NI(ANO KATO)) ENARMONIOS(ANTIFONIA) I(YFESIS(TETARTIMORION)) MALAKON(CHROMA(
   DIFONIAS MONOFONIAS)) NAOS(ICHOS) SKLIRON(CHROMA(SYNAFI VASIS) DIATONON(DI))) GENIKI(DIESIS
   YFESIS) GORGON(ARCHAION NEO(ANO KATO) PARESTIGMENON(ARISTERA DEXIA)) GORTHMIKON(N(APLOUN
   DIPLOUN)) ISAKIA(TELOUS(ICHIMATOS)) KATAVA(TROMIKON) KENTIMA(ARCHAION NEO(ANO KATO MESO))
   KENTIMATA(.ARCHAION NEO(ANO KATO MESO)) KLASMA(.ANO KATO) KONTEVMA(.ALLO) KRATIMA+TROMIKON(ALLO
   ARCHAION NEO) LEIMMA(DYO+TESSARON+TRION(CHRONON) ENOS+IMISEOS(CHRONOU)) MARTYRIA(TRIFONIAS ALLI(
   DEYTEROS+PROTOS(ICHOS)) DEYTEROS+LEGETOS+PROTOS+PROTOVARYS+TRITOS+VARYS(ICHOS) PLAGIOS(ICHOS
   TETARTOS(ICHOS)) TETARTOS(ICHOS LEGETOS(ICHOS))) MIKRON(ISON) OXEIA+VAREIA(DIPLI EKFONITIKON
   NEO) OXEIAI+VAREIAI(ARCHAION) PARAKLITIKI(.ARCHAION NEO) PELASTON+PSIFISTON+SEISMA(.NEO)
   SIMANSIS(ARSEOS+THESEOS(.DISIMOU TETRASIMOU TRISIMOU)) STAVROS(.APODEXIA) SYNAGMA(ARCHAION NEO
   META(STAVROU)) THEMA(.APLOUN) THEMATISMOS(ESO EXO) THES(KAI(APOTHES)) XIRON(KLASMA) YFEN(ANO
   KATO) YFESIS(TRITIMORION APLI(DYO(DODEKATA)) DIGRAMMOS(EX(DODEKATA)) MONOGRAMMOS(TESSERA(
   DODEKATA)) TRIGRAMMOS(OKTO(DODEKATA))) YPOKRISIS(.DIPLI)))) CADA(UNA) CALL(ME(HAND)) CAMERA(
   .WITH(FLASH)) CANADIAN(SYLLABICS(A AA AAI AAY AI AN AY C CA CAA CAAI CE CI CII CO COO CWA CWAA
   CWE CWI CWII CWO CWOO E EN F FA FAA FAAI FE FI FII FO FOO FWAA HK HYPHEN I II IN K KA KAA KAAI
   KAY KE KI KII KO KOO KW KWA KWAA KWAY KWE KWI KWII KWO KWOO L LA LAA LAAI LAY LE LH LHA LHAA LHI
   LHII LHO LHOO LI LII LO LOO LWA LWAA LWE LWI LWII LWO LWOO M MA MAA MAAI MAY ME MH MI MII MO MOO
   MWA MWAA MWE MWI MWII MWO MWOO N NA NAA NAAI NAY NE NG NGA NGAA NGAAI NGAI NGI NGII NGO NGOO NH
   NI NII NNG NNGA NNGAA NNGI NNGII NNGO NNGOO NO NOO NOY NWA NWAA NWE NWI NWII NWO NWOO O ON OO OY
   P PA PAA PAAI PAY PE PI PII PO POO POY PWA PWAA PWE PWI PWII PWO PWOO PWOY Q QA QAA QAAI QAI QI
   QII QO QOO R RA RAA RAAI RAY RE RI RII RO ROO RWA RWAA RWEE RWI RWII RWO RWOO S SA SAA SAAI SAY
   SE SH SHA SHAA SHAY SHE SHI SHII SHO SHOO SHOY SHWA SHWAA SHWE SHWI SHWII SHWO SHWOO SHWOY SI
   SII SO SOO SOY SPA SPE SPI SPO SW SWA SWAA SWE SWI SWII SWO SWOO T TA TAA TAAI TAY TE TH THA
   THAA THE THI THII THO THOO THWA THWAA THWE TI TII TLHA TLHE TLHI TLHO TLHOO TLHWE TO TOO TTA TTE
   TTH TTHA TTHAA TTHE TTHI TTHO TTHOO TTHWE TTI TTO TWA TWAA TWE TWI TWII TWO TWOO TYA TYE TYI TYO
   WA WAA WAY WE WI WII WO WOO Y YA YAA YAAI YAY YE YI YII YO YOO YOY YWA YWAA YWE YWI YWII YWO
   YWOO AIVILIK(B) ATHAPASCAN(M S) BEAVER(DENE(L R)) BIBLE-CREE(Y) BLACKFOOT(A E I KA KE KI KO NA
   NE NI NO O S W WA WE WI WO) CARRIER(CHA CHE CHEE CHI CHO CHU DEE DI DLA DLE DLEE DLI DLO DLU DZA
   DZE DZEE DZI DZO DZU EE GA GAA GE GEE GHA GHE GHEE GHI GHO GHU GI GO GU GWA GWU H HEE HI HWA HWE
   HWEE HWI HWO HWU I JA JE JEE JI JJA JJE JJEE JJI JJO JJU JO JU JWA KHA KHE KHEE KHI KHO KHU KK
   KKA KKE KKEE KKI KKO KKU LA LE LEE LHA LHE LHEE LHI LHO LHU LI LO LU MA ME MEE MI MO MU NA NE
   NEE NG NI NO NU P PA PE PEE PI PO PU RA RE REE RI RO RU SA SE SEE SH SHA SHE SHEE SHI SHO SHU SI
   SO SU THA THE THEE THI THO THU TLA TLE TLEE TLHA TLHE TLHEE TLHI TLHO TLHU TLI TLO TLU TSA TSE
   TSEE TSI TSO TSU TTA TTE TTEE TTI TTO TTSA TTSE TTSEE TTSI TTSO TTSU TTU WA WE WEE WI WO WU YA
   YE YEE YI YO YU Z ZA ZE ZEE ZI ZO ZU DENE(GEE) DENTAL(S) INITIAL(Z)) CHI(SIGN) EASTERN+WESTERN(
   W) FINAL(ACUTE GRAVE PLUS RING BOTTOM+RIGHT+TOP(HALF(RING)) DOUBLE(ACUTE SHORT(VERTICAL(
   STROKES))) DOWN(TACK) MIDDLE+RAISED(DOT) SHORT(HORIZONTAL(STROKE)) SMALL(RING)) FULL+GLOTTAL(
   STOP) MEDIAL(L R) MOOSE-CREE(SK) N-CREE(THE THI THII) NASKAPI(CWAA KWAA MWAA NWAA S-W SCWA SKW
   SKWA SPWA STWA SWAA TWAA WAA WOO YWAA) NATTILIK(HA HAA HI HII HO HOO SHRA SHRAA SHRI SHRII SHRO
   SHROO) NUNAVIK(H HA HAA HE HI HII HO HOO) NUNAVUT(H) OJIBWAY(C K M N NWI NWII NWO NWOO P S SH T)
   R-CREE(RE RWE) SAYISI(HA HE HI HO HOO JI JU JUU M SHA SHE SHI SHO SHOO SHWE TH YI) SOUTH-SLAVEY(
   KAH KEH KIH KOH) TH-CREE(TH THA THAA THE THI THII THO THOO) WEST-CREE(CWA CWAA CWE CWI CWII CWO
   CWOO FWAA KWA KWAA KWE KWI KWII KWO KWOO L LA LAA LE LO LOO LWA LWAA LWE LWI LWII LWO LWOO M MWA
   MWAA MWE MWI MWII MWO MWOO NWA NWAA NWE P PWA PWAA PWE PWI PWII PWO PWOO R RA RE RI RO RWAA SHWA
   SHWAA SHWE SHWI SHWII SHWO SHWOO SWA SWAA SWE SWI SWII SWO SWOO THWAA TWA TWAA TWE TWI TWII TWO
   TWOO WA WAA WE WI WII WO WOO Y YWA YWAA YWE YWI YWII YWO YWOO) WOODS-CREE(TH THA THE THI THO
   THWA THWAA THWEE THWI THWII THWO THWOO FINAL(TH)) Y-CREE(COO KOO LOO MOO NOO OO POO PWAA SOO TOO
   W YOO))) CANCEL(.CHARACTER TAG) CANCELLATION(X) CANNED(FOOD) CAR(SLIDING) CARD(FILE(BOX) INDEX(
   .DIVIDERS)) CARET(.INSERTION(POINT)) CARIAN(LETTER(A A2 B C-18 C-39 D D2 E E2 G G2 I II K K2 L
   LD LD2 M MB MB2~4 N ND NG NN O P P2 Q R RR S SH SH2 SS ST ST2 T TT TT2 U UU UUU UUU2~3 UUUU X))
   CAROUSEL(HORSE) CARP(STREAMER) CARPENTRY(SAW) CARRIAGE(RETURN) CAT(.FACE(.WITH(TEARS(OF(JOY))
   WRY(SMILE)))) CAUCASIAN(ALBANIAN(CITATION(MARK) LETTER(ALT AOR BET CAR CAYN CHA CHAT CHI CHOY
   CYAW CYAY DAT DYAN DZAY DZYAY EB EYN FAM GHEYS GIM HEYT INYA IRB IWN JAYN JHOX KAR KIW LAN LYIT
   MAQ NOWC ON PEN PIWR QAR QAY RAT SEYK SHA SHAK SHOY TAS TIWR TYAY VEYZ XEYN YAYD YOWD ZARL ZHA
   ZHIL))) CELTIC+MALTESE+ORTHODOX(CROSS) CENTRE(LINE(SYMBOL)) CENTRELINE(OVERLINE LOW(LINE))
   CHAKMA(DANDA MAAYYAA VIRAMA AU+O+QUESTION+SECTION(MARK) DIGIT(EIGHT FIVE FOUR NINE ONE SEVEN SIX
   THREE TWO ZERO) DOUBLE(DANDA) LETTER(AA BAA BHAA CAA CHAA DAA DDAA DDHAA DHAA E GAA GHAA HAA I
   JAA JHAA KAA KHAA LAA LHAA MAA NAA NGAA NNAA NYAA PAA PHAA RAA SAA TAA THAA TTAA TTHAA U VAA WAA
   YAA YYAA) SIGN(ANUSVARA CANDRABINDU VISARGA) VOWEL(SIGN(A AA AI AU E EI I II O OI U UU))) CHAM(
   CONSONANT(SIGN(LA RA WA YA FINAL(H M NG))) DIGIT(EIGHT FIVE FOUR NINE ONE SEVEN SIX THREE TWO
   ZERO) LETTER(A AI BA BBA BHA CHA CHHA DA DDA DHA E GA GHA HA I JA JHA KA KHA LA MA MUE NA NGA
   NGUE NHA NHJA NHUE NUE O PA PHA PPA RA SA SSA TA THA U VA YA FINAL(CH G K L N NG P R SS T Y))
   PUNCTUATION(DANDA SPIRAL DOUBLE+TRIPLE(DANDA)) VOWEL(SIGN(AA AI AU EI I II O OE U UE)))
   CHARACTER(TIE TABULATION(.SET WITH(JUSTIFICATION))) CHART(WITH(DOWNWARDS(TREND) UPWARDS(TREND(
   .AND(YEN(SIGN)))))) CHECK+DITTO+GETA+MASU+PARAGRAPHUS+QUOTATION+REFERENCE+SERVICE(MARK) CHECKER(
   BOARD(.FILL)) CHEERING(MEGAPHONE) CHEESE(WEDGE) CHEQUERED(FLAG) CHEROKEE(LETTER(A DA DE DI DLA
   DO DU DV E GA GE GI GO GU GV HA HE HI HNA HO HU HV I KA LA LE LI LO LU LV MA ME MI MO MU MV NA
   NAH NE NI NO NU NV O QUA QUE QUI QUO QUU QUV S SA SE SI SO SU SV TA TE TI TLA TLE TLI TLO TLU
   TLV TSA TSE TSI TSO TSU TSV U V WA WE WI WO WU WV YA YE YI YO YU YV) SMALL(LETTER(A DA DE DI DLA
   DO DU DV E GA GE GI GO GU GV HA HE HI HNA HO HU HV I KA LA LE LI LO LU LV MA ME MI MO MU MV NA
   NAH NE NI NO NU NV O QUA QUE QUI QUO QUU QUV S SA SE SI SO SU SV TA TE TI TLA TLE TLI TLO TLU
   TLV TSA TSE TSI TSO TSU TSV U V WA WE WI WO WU WV YA YE YI YO YU YV))) CHERRY(BLOSSOM) CHI(RHO)
   CHILDREN(CROSSING) CHOCOLATE(BAR) CHORASMIAN(LETTER(ALEPH AYIN BETH DALETH GIMEL HE HETH KAPH
   LAMEDH MEM NUN PE RESH SAMEKH SHIN TAW WAW YODH ZAYIN CURLED(WAW) SMALL(ALEPH)) NUMBER(FOUR TEN
   THREE TWENTY TWO ONE(.HUNDRED))) CHRISTMAS+DECIDUOUS+EVERGREEN+TANABATA(TREE) CIRCLE(DIVIDED(BY(
   HORIZONTAL(BAR(AND(TOP(HALF(DIVIDED(BY(VERTICAL(BAR)))))))))) WITH(ALL(BUT(UPPER(LEFT(QUADRANT(
   BLACK))))) HORIZONTAL(BAR) LEFT+LOWER+RIGHT(HALF(BLACK)) SMALL(CIRCLE(TO(THE(RIGHT))))
   SUPERIMPOSED(X) TWO(HORIZONTAL(STROKES(TO(THE(RIGHT))))) UPPER(HALF(BLACK) RIGHT(QUADRANT(
   BLACK))) VERTICAL(FILL))) CIRCLED(BULLET CC CD DASH EQUALS GREATER-THAN LESS-THAN MINUS PARALLEL
   PERPENDICULAR PLUS SQUARE TIMES WZ X ANTICLOCKWISE(ARROW) ANTICLOCKWISE-ROTATED(DIVISION(SIGN))
   ASTERISK+DOT+RING(OPERATOR) BOLD(X) C(WITH(OVERLAID(BACKSLASH))) CROSS(POMMEE FORMEE(.WITH(FOUR+
   TWO(DOTS)))) CROSSING(LANES) DIGIT(EIGHT FIVE FOUR NINE ONE SEVEN SIX THREE TWO ZERO) DIVISION(
   SIGN SLASH) DOLLAR(SIGN(WITH(OVERLAID(BACKSLASH)))) HANGUL(CHIEUCH+CIEUC+HIEUH+KHIEUKH+KIYEOK+
   MIEUM+NIEUN+PHIEUPH+PIEUP+RIEUL+SIOS+THIEUTH+TIKEUT(.A) IEUNG(.A U)) HEAVY(WHITE(RIGHTWARDS(
   ARROW))) HORIZONTAL(BAR(WITH(NOTCH))) HUMAN(FIGURE) IDEOGRAPH(ACCEPT ADVANTAGE ALLIANCE
   ATTENTION CENTRE CONGRATULATION COPY CORRECT EARTH EIGHT ENTERPRISE EXCELLENT FEMALE FINANCIAL
   FIRE FIVE FOUR HAVE HIGH ITEM KINDERGARTEN KOTO LABOR LEFT LOW MALE MEDICINE METAL MOON NAME
   NIGHT NINE ONE PRINT QUESTION RELIGION RESOURCE REST RIGHT SCHOOL SECRET SEVEN SIX SOCIETY
   SPECIAL STOCK STUDY SUITABLE SUN SUPERVISE TEN THREE TWO WATER WOOD) INFORMATION(SOURCE) ITALIC(
   LATIN(CAPITAL(LETTER(C R)))) KATAKANA(A E HA HE HI HO HU I KA KE KI KO KU MA ME MI MO MU NA NE
   NI NO NU O RA RE RI RO RU SA SE SI SO SU TA TE TI TO TU U WA WE WI WO YA YO YU) KOREAN(
   CHARACTER(CHAMKO JUEUI)) LATIN(CAPITAL+SMALL(LETTER(A B C D E F G H I J K L M N O P Q R S T U V
   W X Y Z))) MULTIPLICATION(SIGN(WITH(CIRCUMFLEX(ACCENT)))) NUMBER(EIGHTEEN ELEVEN FIFTEEN
   FOURTEEN NINETEEN SEVENTEEN SIXTEEN THIRTEEN TWELVE EIGHTY+SEVENTY+SIXTY(ON(BLACK(SQUARE)))
   FIFTY+TEN(.ON(BLACK(SQUARE))) FORTY+THIRTY+TWENTY(.EIGHT FIVE FOUR NINE ONE SEVEN SIX THREE TWO
   ON(BLACK(SQUARE)))) OPEN(CENTRE(EIGHT(POINTED(STAR)))) POSTAL(MARK) REVERSE(SOLIDUS) TRIANGLE(
   .DOWN) VERTICAL(BAR) WHITE(BULLET STAR) ZERO(WITH(SLASH))) CIRCULATION(FUNCTION) CIRCUMFLEX+
   GRAVE(ACCENT) CIRCUS(TENT) CITYSCAPE(.AT(DUSK)) CJK(RADICAL(BAMBOO BLUE BONE BOX CHOKE CITY
   CIVILIAN CLIFF CLOTHES COW DEATH DIVINATION DOG EWE EYE FIRE FOOT GHOST HAND HEAD HORN JADE MEAT
   MESH MOON MORTAR MOTHER OLD PERSON RAIN RAM RAP REPEAT SEAL SHEEP SILK SNAKE SUN TABLE THREAD
   TIGER TURTLE BOLT(OF(CLOTH)) BRUSH+HEART+KNIFE+LONG+MOUND+PAW+SMALL+SNOUT+SPIRIT+WALK+WATER+
   WEST(ONE TWO) C-SIMPLIFIED(BIRD CART DRAGON EAT EVEN FISH FLY FROG GATE GOLD HORSE LEAF LONG
   SALT SEE SHELL SILK SPEECH TOOTH TURTLE WIND TANNED(LEATHER)) EAT+GRASS+SECOND(ONE THREE TWO)
   J-SIMPLIFIED(DRAGON EVEN TOOTH TURTLE) LAME+NET(FOUR ONE THREE TWO) SIMPLIFIED(HORN WALK WHEAT
   YELLOW HALF(TREE(TRUNK)))) STROKE(BXG D H HG HP HPWG HXWG HZ HZG HZT HZW HZWG HZZ HZZP HZZZ
   HZZZG N P PD PG PZ Q S SG SP ST SW SWG SWZ SZ SZWG SZZ T TN WG XG)) CLAMSHELL(MOBILE(PHONE))
   CLAPPER(BOARD) CLAPPING(HANDS(SIGN)) CLASSICAL+OFFICE(BUILDING) CLEAR+PRINT(SCREEN(SYMBOL))
   CLINKING(GLASSES BEER(MUGS)) CLOCK(FACE(EIGHT-THIRTY ELEVEN-THIRTY FIVE-THIRTY FOUR-THIRTY
   NINE-THIRTY ONE-THIRTY SEVEN-THIRTY SIX-THIRTY TEN-THIRTY THREE-THIRTY TWELVE-THIRTY TWO-THIRTY
   EIGHT+ELEVEN+FIVE+FOUR+NINE+ONE+SEVEN+SIX+TEN+THREE+TWELVE+TWO(OCLOCK))) CLOCKWISE(INTEGRAL
   CLOSED+GAPPED+OPEN(CIRCLE(ARROW)) CONTOUR(INTEGRAL) DOWNWARDS(AND(UPWARDS(OPEN(CIRCLE(
   ARROWS))))) RIGHT(AND(LEFT(SEMICIRCLE(ARROWS)))) RIGHTWARDS(AND(LEFTWARDS(OPEN(CIRCLE(ARROWS(
   .WITH(CIRCLED(ONE(OVERLAY))))))))) TOP(SEMICIRCLE(ARROW)) TRIANGLE-HEADED(OPEN(CIRCLE(ARROW))))
   CLOSE(UP) CLOSED(BOOK UMBRELLA INTERSECTION(WITH(SERIFS)) LOCK(WITH(KEY)) MAILBOX(WITH(LOWERED+
   RAISED(FLAG))) SUBSET+SUPERSET(.OR(EQUAL(TO))) UNION(WITH(SERIFS(.AND(SMASH(PRODUCT)))))) CLOUD(
   .WITH(LIGHTNING RAIN SNOW TORNADO)) COCKTAIL+TUMBLER+WINE(GLASS) COLON(.EQUALS SIGN) COMBINING(
   ACUTE-GRAVE-ACUTE ACUTE-MACRON BREVE-MACRON CANDRABINDU CEDILLA DIAERESIS-RING FERMATA
   GRAVE-ACUTE-GRAVE GRAVE-MACRON HORN INFINITY MACRON-ACUTE MACRON-BREVE MACRON-GRAVE OVERLINE
   ACUTE+GRAVE(ACCENT(.BELOW) TONE(MARK)) ALMOST(EQUAL(TO(ABOVE BELOW))) ANNUITY(SYMBOL)
   ANTICLOCKWISE+CLOCKWISE(ARROW(ABOVE) RING(OVERLAY)) ASTERISK+BRIDGE+X+ZIGZAG(ABOVE BELOW) BINDU+
   IS+SEAGULL+SNAKE+X-X(BELOW) BREVE+CARON+DIAERESIS(.BELOW) CIRCUMFLEX(ACCENT(.BELOW)) COMMA(BELOW
   ABOVE(.RIGHT)) CONJOINING(MACRON(.BELOW)) CYRILLIC(KAVYKA PALATALIZATION PAYEROK POKRYTIE VZMET
   DASIA+PSILI(PNEUMATA) HUNDRED(MILLIONS+THOUSANDS(SIGN)) LETTER(A BE CHE DE DJERV EF EL EM EN ER
   ES ES-TE FITA GHE HA I IE KA O OMEGA PE SHA SHCHA TE TSE U VE YAT YERU YI YU ZE ZHE BIG+LITTLE(
   YUS) HARD+SOFT(SIGN) IOTIFIED(A E BIG(YUS)) MONOGRAPH(UK) UKRAINIAN(IE)) MILLIONS(SIGN) TEN+
   THOUSAND(MILLIONS(SIGN)) TITLO(.LEFT+RIGHT(HALF))) DELETION+SUSPENSION(MARK) DEVANAGARI(DIGIT(
   EIGHT FIVE FOUR NINE ONE SEVEN SIX THREE TWO ZERO) LETTER(A KA NA PA RA U VI) SIGN(AVAGRAHA))
   DOT(ABOVE(.LEFT RIGHT) BELOW(.LEFT)) DOTTED(ACUTE+GRAVE(ACCENT)) DOUBLE(OVERLINE ACUTE+GRAVE(
   ACCENT) BREVE+MACRON(.BELOW) CIRCUMFLEX+PARENTHESES(ABOVE) INVERTED(BREVE(.BELOW)) LOW(LINE)
   OPEN(MARK(BELOW)) PLUS(SIGN(ABOVE BELOW)) RIGHTWARDS(ARROW(BELOW)) RING(BELOW) TILDE(.LEFT+
   RIGHT(HALF)) VERTICAL(LINE(ABOVE BELOW) STROKE(OVERLAY))) DOUBLED(CIRCUMFLEX(ACCENT)) DOWN(TACK(
   BELOW)) DOWNWARDS(ARROW) ENCLOSING(DIAMOND KEYCAP SCREEN SQUARE CIRCLE(.BACKSLASH) UPWARD(
   POINTING(TRIANGLE))) EQUALS+MINUS(SIGN(BELOW)) FOUR+THREE(DOTS(ABOVE)) GLAGOLITIC(LETTER(AZU
   BUKY CHRIVI DJERVI DOBRO FITA FRITU GLAGOLI HERU I IZHE KAKO LJUDIJE MYSLITE NASHI ONU POKOJI
   RITSI SHA SHTA SLOVO TSI TVRIDO UKU VEDE YATI YERI YERU YESTU YO YU ZEMLJA ZHIVETE BIG+SMALL(
   YUS) INITIAL(IZHE) IOTATED(BIG+SMALL(YUS)))) GRANTHA(DIGIT(FIVE FOUR ONE SIX THREE TWO ZERO)
   LETTER(A KA NA PA VI)) GRAPHEME(JOINER) GREEK(KORONIS PERISPOMENI YPOGEGRAMMENI DIALYTIKA(TONOS)
   MUSICAL(PENTASEME TETRASEME TRISEME)) HOMOTHETIC+HOOK+UR+US(ABOVE) INVERTED(BREVE(.BELOW)
   BRIDGE(BELOW) DOUBLE(ARCH(ABOVE BELOW))) KATAKANA-HIRAGANA(SEMI-VOICED+VOICED(SOUND(MARK)))
   KAVYKA(ABOVE(LEFT RIGHT)) LATIN(LETTER(SMALL(CAPITAL(G L M N R))) SMALL(LETTER(AE ALPHA AO AV B
   BETA D E ESH ETH F G H I K M N P S SCHWA T V X Z A(.WITH(DIAERESIS)) C(.CEDILLA) FLATTENED(OPEN(
   A(ABOVE))) INSULAR(D G R T) L(.WITH(DOUBLE(MIDDLE(TILDE)))) LONG(S) O+U(.WITH(DIAERESIS LIGHT(
   CENTRALIZATION(STROKE)))) R(.BELOW ROTUNDA) TURNED(W(BELOW)) W(.BELOW)))) LEFT(ANGLE+ARROW+
   ARROWHEAD(ABOVE BELOW) HALF(RING(ABOVE BELOW)) HARPOON(ABOVE) PARENTHESIS(ABOVE+BELOW(LEFT))
   RIGHT(ARROW(ABOVE BELOW)) TACK(BELOW)) LEFTWARDS(ARROW(OVERLAY) HARPOON(WITH(BARB(DOWNWARDS))))
   LIGATURE(LEFT+RIGHT(HALF(.BELOW))) LIGHT+STRONG(CENTRALIZATION(STROKE(BELOW))) LONG(DOUBLE(
   SOLIDUS(OVERLAY)) SOLIDUS+STROKE(OVERLAY) VERTICAL(LINE(OVERLAY))) LOW(LINE) MACRON(.BELOW LEFT+
   RIGHT(HALF(.BELOW))) NOT(TILDE(ABOVE)) NUMBER(SIGN(ABOVE)) OGONEK(.ABOVE) OLD(PERMIC(LETTER(AN
   DOI NENOE SII ZATA))) OPEN(MARK(BELOW)) PALATALIZED+RETROFLEX(HOOK(BELOW)) PARENTHESES+RING(
   ABOVE BELOW OVERLAY) PLUS(SIGN(ABOVE BELOW)) REVERSE(SOLIDUS(OVERLAY)) REVERSED+TURNED(COMMA(
   ABOVE)) RIGHT(ARROW(ABOVE BELOW) ARROWHEAD(ABOVE BELOW AND(DOWN+UP(ARROWHEAD(BELOW)))) HALF(
   RING(ABOVE BELOW)) HARPOON(ABOVE) PARENTHESIS(ABOVE+BELOW(RIGHT)) TACK(BELOW)) RIGHTWARDS(
   HARPOON(WITH(BARB(DOWNWARDS)))) SHORT(SOLIDUS+STROKE(OVERLAY) VERTICAL(LINE(OVERLAY))) SQUARE(
   BELOW BRACKETS(ABOVE)) TILDE(.BELOW OVERLAY LEFT+RIGHT(HALF(BELOW))) TRIPLE(DOT UNDERDOT ACUTE(
   ACCENT)) UP(TACK(ABOVE BELOW)) UPWARDS(ARROW(BELOW)) VERTICAL(TILDE LINE(ABOVE BELOW)) WIDE(
   BRIDGE(ABOVE) INVERTED(BRIDGE(BELOW))) WIGGLY(LINE(BELOW))) COMMERCIAL(AT MINUS(SIGN)) CONFETTI+
   CRYSTAL+SOCCER(BALL) CONGRUENT(WITH(DOT(ABOVE))) CONICAL(TAPER) CONSTRUCTION(SIGN WORKER)
   CONTAINS(AS(MEMBER NORMAL(SUBGROUP(.OR(EQUAL(TO))))) WITH(OVERBAR LONG(HORIZONTAL(STROKE))
   VERTICAL(BAR(AT(END(OF(HORIZONTAL(STROKE)))))))) CONTINUOUS+DISCONTINUOUS(UNDERLINE(SYMBOL))
   CONTOUR+SURFACE+VOLUME(INTEGRAL) CONTROL(KNOBS SEQUENCE(INTRODUCER)) CONVENIENCE+DEPARTMENT(
   STORE) COOKED(RICE) COPTIC(CAPITAL+SMALL(LETTER(ALFA DALDA DEI EIE FEI FI GAMMA GANGIA HATE HORI
   IAUDA KAPA KHEI KHI KSI LAULA MI NI O OOU PI PSI RO SAMPI SHEI SHIMA SIMA SOU TAU THETHE UA VIDA
   ZATA AKHMIMIC+BOHAIRIC(KHEI) CROSSED(SHEI) CRYPTOGRAMMIC(EIE GANGIA NI SHEI) DIALECT-P(ALEF HORI
   KAPA NI) L-SHAPED(HA) OLD(COPTIC(AIN DJA ESH GANGIA HA HAT HEI HORI OOU SHEI SHIMA) NUBIAN(NGI
   NYI SHIMA WAU)))) COMBINING(NI(ABOVE) SPIRITUS(ASPER LENIS)) EPACT(DIGIT(EIGHT FIVE FOUR NINE
   ONE SEVEN SIX THREE TWO) NUMBER(EIGHTY FIFTY FORTY NINETY SEVENTY SIXTY TEN THIRTY TWENTY EIGHT+
   FIVE+FOUR+NINE+ONE+SEVEN+SIX+THREE+TWO(HUNDRED)) THOUSANDS(MARK)) FRACTION(ONE(HALF)) FULL(STOP)
   MORPHOLOGICAL(DIVIDER) OLD(NUBIAN(DIRECT+INDIRECT(QUESTION(MARK)) FULL(STOP) VERSE(DIVIDER)))
   SYMBOL(KAI STAUROS KHI+MI+PI+TAU(RO) SHIMA(SIMA))) CORNISH(VERSE(DIVIDER)) CORRESPONDS+
   EQUIANGULAR+PROPORTIONAL(TO) COUCH(AND(LAMP)) COUNTING(ROD(TENS+UNIT(DIGIT(EIGHT FIVE FOUR NINE
   ONE SEVEN SIX THREE TWO)))) COUPLE(WITH(HEART)) COW+DOG+DRAGON+MONKEY+RABBIT+TIGER(.FACE)
   CREDIT+IDENTIFICATION(CARD) CRESCENT(MOON) CRICKET(.BAT(AND(BALL))) CROSS(MARK OF(JERUSALEM
   LORRAINE) PATTY(WITH(LEFT+RIGHT(CROSSBAR))) POMMEE(.WITH(HALF-CIRCLE(BELOW)))) CROSSED(FLAGS
   SWORDS NEGATIVE(SQUARED(LATIN(CAPITAL(LETTER(P)))))) CROSSING(LANES) CRYING+POUTING+WEARY(FACE
   CAT(FACE)) CUBE+FOURTH(ROOT) CUNEIFORM(NUMERIC(SIGN(NIGIDAESH NIGIDAMIN EIGHT(ASH DISH GESH2
   SHAR2 U(.VARIANT(FORM)) VARIANT(FORM(USSU USSU3))) ELAMITE(FIFTY FORTY ONE(THIRD) TWO(THIRDS))
   FIVE(BURU DISH GESH2 GESHU SHAR2 SHARU ASH(.TENU) BAN2+U(.VARIANT(FORM)) SIXTHS(DISH)) FOUR(BURU
   DISH GESH2 GESHU SHAR2 SHARU ASH(.TENU) BAN2+U(.VARIANT(FORM)) VARIANT(FORM(LIMMU4 LIMMU(.A
   B)))) NINE(ASH DISH GESH2 SHAR2 U(.VARIANT(FORM)) VARIANT(FORM(ILIMMU3~4 ILIMMU(.A)))) OLD(
   ASSYRIAN(ONE(QUARTER SIXTH))) ONE(BAN2 BURU ESHE3 GESH2 GESHU SHARU EIGHTH(ASH) HALF(GUR)
   QUARTER(ASH GUR) THIRD(DISH VARIANT(FORM(A)))) SEVEN(ASH DISH GESH2 SHAR2 U(.VARIANT(FORM))
   VARIANT(FORM(IMIN3 IMIN(A B)))) SHAR2(TIMES(GAL(PLUS(DISH MIN)))) SIX(DISH GESH2 SHAR2 ASH(
   .TENU) U(.VARIANT(FORM)) VARIANT(FORM(ASH9))) THREE(BAN2 DISH GESH2 GESHU ASH(.TENU) BURU+SHAR2+
   SHARU(.VARIANT(FORM)) VARIANT(FORM(ESH16 ESH21))) TWO(BAN2 BURU ESHE3 GESH2 GESHU SHAR2 SHARU
   ASH(.TENU) THIRDS(DISH VARIANT(FORM(A)))))) PUNCTUATION(SIGN(DIAGONAL(COLON QUADCOLON TRICOLON)
   OLD(ASSYRIAN(WORD(DIVIDER))) VERTICAL(COLON))) SIGN(A2 ALAN ALEPH ANSHE APIN ARKAB ASAL2 ASH2
   ASHGAB BA BAG3 BALAG BAR BARA2 BUR BUR2 DAG3 DAM DAR DARA3~4 DI DIB DUB2 DUGUD DUH DUN DUN4 DUR2
   EDIN EGIR EL EREN GALAM GAM GAN GAR GAR3 GASHAN GE22 GIDIM GIG GISAL GUL GUR GUR7 GURUN GURUSH
   HAL HU HUL2 HUSH IB IG IL2 IMIN IN IR ISH KAB KAD2~4 KAM2 KAM4 KESH2 KID KIN KISAL KISH KU3 KU7
   KUN KUSHU2 KWU318 LA LAHSHU LAK-003 LAK-021 LAK-025 LAK-030 LAK-050~051 LAK-062 LAK-080 LAK-092
   LAK-130 LAK-142 LAK-210 LAK-219~220 LAK-225 LAK-228 LAK-238 LAK-265~266 LAK-343 LAK-347~348
   LAK-383~384 LAK-390 LAK-441 LAK-450 LAK-457 LAK-470 LAK-483 LAK-490 LAK-492~493 LAK-495 LAK-550
   LAK-608 LAK-636 LAK-724 LAK-749 LI LIL LIMMU2 LISH LU3 LUH LUL MA2 MAH MAR MASH MASH2 ME MES
   MESH MIN MUNSUB MURGU2 NA NA2 NA4 NAGAR NAM2 NI2 NIN NIN9 NISAG NU PA PAD PAN PAP PIR2 RA RAB RI
   RU SA SANGA2 SAR SHA SHAB6 SHAR2 SHEG9 SHEN SHESH SHESH2 SHESHLAM SHINIG SHITA SHUBUR SIG SIK2
   SILA3 SUD SUD2 SUHUR SUM SUMASH SUR SUR9 TAR TI2 TIL TU TUG2 TUK U2 UB UDUG UMBIN UR4 URI URI3
   USH2 USHUMX USHX UTUKI UZU ZA7 ZAG ZAMX ZE2 ZI3 ZIG ZIZ2 ZUBUR ZUM A(.TIMES(A BAD HA IGI MUSH
   SAG GAN2(TENU) LAGAR(GUNU))) AB(.GUNU TIMES(ASH2 GAL HA IMIN LAGAB SHESH SHU2 DUN3+IGI(GUNU)
   GAN2(TENU) NUN(.TENU) U(PLUS(U(PLUS(U)))))) AB2(.TIMES(A BALAG SHA3 TAK4 GAN2(TENU) ME(PLUS(
   EN)))) AD(.TIMES(ESH2)) AK(.TIMES(ERIN2 SHITA(PLUS(GISH)))) AL(.TIMES(AL DIM2 GISH HA KAD3 KI
   SHE USH)) AMAR(.TIMES(KUG SHE)) AN(.OVER(AN) PLUS(NAGA(SQUARED OPPOSING(AN(PLUS(NAGA))))) THREE(
   TIMES)) ARAD(.TIMES(KUR)) ASH(.KABA+ZIDA(TENU) OVER(ASH(OVER(ASH(.CROSSING(ASH(OVER(ASH(OVER(
   ASH))))))) TUG2(OVER(TUG2(TUG2(OVER(TUG2(PAP))))))))) BAD(.TIMES(DISH(TENU))) BAHAR2(.TIMES(AB2
   NI ZA)) BAL(.OVER(BAL)) BI(.TIMES(A GAR IGI(GUNU))) BU(.CROSSING(BU) OVER(BU(AB UN TIMES(NA2))))
   BULUG(.OVER(BULUG)) DA(.TIMES(TAK4)) DAG(.KISIM5(TIMES(AMAR BALAG BI GI GIR2 GUD HA KAK LA LUM
   NE SI TAK4 USH A(PLUS(MASH)) GA(.PLUS(MASH)) IR(.PLUS(LU)) LU(.PLUS(MASH2)) PAP(PLUS(PAP)) U2(
   PLUS(GIR2 MASH)))) TIMES(KUR)) DIM(.TIMES(IGI SHE U(U(U)))) DIM2(.TIMES(UD)) DIN(.KASKAL(U(GUNU(
   DISH)))) DISH(.PLUS(SHU)) DU(.GUNU SHESHIG OVER(DU)) DUB(.TIMES(ESH2 SHE)) DUG(.TIMES(ANSHE DIN
   DUN ERIN2 GA GI GISH HA HI KASKAL KUR LAK-020 MASH MES MI NI PI SHE ASH(.AT(LEFT)) GIR2+IGI+SI(
   GUNU) KUSHU2(.PLUS(KASKAL)) LAM(.TIMES(KUR)) LUH(PLUS(GISH)))) DUN3(.GUNU(.GUNU)) E(.OVER(E(NUN(
   OVER(NUN)))) TIMES(PAP)) E2(.TIMES(GAR KUR MI PAP SAL SHE U A(PLUS(HA(PLUS(DA)))))) EN(.SQUARED
   CROSSING+OPPOSING(EN) TIMES(ME GAN2(.TENU))) ERIN2(.X) ESH2(.CROSSING(ESH2)) EZEN(.SHESHIG(
   TIMES(ASH HI LA LAL ME MES SU IGI(GUNU))) TIMES(AN BAD GUD KU3 LA LI LU SHE SU U2 UD A(.PLUS(
   LAL(.TIMES(LAL)))) DUN3(GUNU(.GUNU)) HA(.GUNU) IGI(GUNU) KASKAL(.SQUARED) LAL(TIMES(LAL)))) GA+
   GIR2+KUL+MUG+TE+UN(.GUNU) GA2(.OVER(GA2) TIMES(ASH BAD BAHAR2 DA DI DUB EREN GA GI HUB2 KAK
   KASKAL LA LUH MI MUSH PA SAL SAR SHID SHIM SUM TAK4 U ZIZ2 A(PLUS(HA IGI DA(PLUS(HA)))) AB2(
   TENU(PLUS(TAB))) AN(.PLUS(KAK(PLUS(A)))) ASH2(.PLUS(GAL)) BAR(PLUS(RA)) BUR(.PLUS(RA)) DIM(GUNU
   TIMES(SHE)) DUG(TIMES(KASKAL IGI(GUNU))) EL+HAL(.PLUS(LA)) EN(.TIMES(GAN2(TENU))) GAN2(TENU)
   GAR(.PLUS(DI NE)) GI4(.PLUS(A)) GIR2(PLUS(SU)) HA(PLUS(A LU(PLUS(ESH2)))) HI(PLUS(LI)) IGI(GUNU)
   ISH(PLUS(HU(PLUS(ASH)))) KID(.PLUS(LAL)) KU3(PLUS(AN)) KUSHU2(PLUS(KASKAL)) LAM(.TIMES(KUR)) ME(
   PLUS(EN)) NE(.PLUS(E2 GI)) NUN(.OVER(NUN)) SHE(.PLUS(TUR)) UD(.PLUS(DU)))) GABA(.CROSSING(GABA)
   ROTATED(NINETY(DEGREES))) GAD(.OVER(GAD(GAR(OVER(GAR))))) GAL(.GAD(OVER(GAD(GAR(OVER(GAR))))))
   GAN2(.TENU CROSSING+OVER(GAN2)) GESHTIN(.TIMES(KUR U)) GI(.CROSSING(GI) TIMES(E U)) GI4(
   .CROSSING+OVER(GI4)) GIR3(.TIMES(IGI PA A+LU(PLUS(IGI)) GAN2(TENU))) GISH(.TENU CROSSING(GISH)
   TIMES(BAD TAK4 GISH(CROSSING(GISH)))) GU(.CROSSING(GU)) GU2(.GUNU TIMES(NUN IGI(GUNU) KAK(
   .TIMES(IGI(GUNU))) SAL(PLUS(TUG2)))) GUD(.OVER(GUD(LUGAL)) PLUS(GISH(TIMES(TAK4))) TIMES(KUR A(
   PLUS(KUR)))) GUM(.TIMES(SHE)) HA(.GUNU TENU(.GUNU)) HI(.TIMES(ASH2 BAD DISH GAD KIN NUN SHE U
   ASH(.OVER(HI(TIMES(ASH)))))) HUB2(.TIMES(AN HAL KASKAL LISH UD)) I(.A) IDIM(.OVER(IDIM(BUR
   SQUARED))) IGI(.DIB GUNU RI OVER(IGI(SHIR(OVER(SHIR(UD(OVER(UD)))))))) IL(.TIMES(GAN2(TENU)))
   IM(.SQUARED CROSSING+OPPOSING(IM) TIMES(TAK4)) KA(.TIMES(A ANSHE ASH2~3 BAD BALAG BAR BI BU
   ERIN2 ESH2 GA GAL GI GIR2 GU GUD GUR7 IGI IM KA KAK KI KID LI LU LUM NE NUN PA PI RU SA SAR SHA
   SHE SHID SHU SHUL SIG SUHUR TAR TU U2 UD UR UR2 USH ZI AD(.PLUS(KU3)) GAN2(TENU) GAR(.PLUS(SHA3(
   PLUS(A)))) GISH(.CROSSING(GISH) PLUS(SAR)) HI(TIMES(ASH2)) ME(.PLUS(DU GI TE)) MI(.PLUS(NUNUZ))
   U(.U(U)) UMUM(TIMES(PA)))) KA2(.CROSSING(KA2)) KAD5(.OVER(KAD5)) KAK(.TIMES(IGI(GUNU))) KAL(
   .CROSSING(KAL) TIMES(BAD)) KAP(ELAMITE) KASKAL(.LAGAB(TIMES(U(OVER(LAGAB(TIMES(U)))))) OVER(
   KASKAL(LAGAB(TIMES(U(OVER(LAGAB(TIMES(U))))))))) KI(.TIMES(BAD U UD)) KISIM5(.OVER(KISIM5)) KU(
   .OVER(HI(TIMES(ASH2(KU(OVER(HI(TIMES(ASH2))))))))) KU4(.VARIANT(FORM)) KUR(.OPPOSING(KUR))
   LAGAB(.SQUARED TIMES(AL AN BAD BI DAR EN GA GAR GI HA HAL KI KIN KU3 LAGAB LISH LU LUL MUSH NE
   SUM TAG TAK4 UD USH A(.PLUS(GAR LAL DA(PLUS(HA)))) ASH(ZIDA(TENU)) GUD(.PLUS(GUD)) HI(TIMES(
   NUN)) IGI(GUNU) IM(.PLUS(HA LU)) KUL(.PLUS(HI(PLUS(A)))) ME(.PLUS(EN)) SHE(PLUS(SUM)) SHITA(
   PLUS(GISH(TENU PLUS(ERIN2)))) SHU2(.PLUS(SHU2)) TE(PLUS(A(PLUS(SU(PLUS(NA)))))) U(.PLUS(A U(
   PLUS(U)))) U2(PLUS(ASH)) ZU(OVER(ZU)))) LAGAR(.GUNU(.OVER(LAGAR(GUNU(SHE)))) TIMES(SHE(.PLUS(
   SUM)))) LAK-079(OVER(LAK-079(GUNU))) LAK-081(OVER(LAK-081)) LAK-449(.TIMES(GU IGI PAP(PLUS(LU3
   PAP(PLUS(LU3)))) U2(PLUS(BA)))) LAK-617(.TIMES(ASH BAD KU3 LA TAR TE U2 UD URUDA DUN3(GUNU(
   GUNU)))) LAK-648(.TIMES(DUB GA NI UD URUDA IGI(.GUNU) PAP(PLUS(PAP(PLUS(LU3)))) SHESH(PLUS(
   KI)))) LAL(.TIMES(LAL)) LAM(.TIMES(KUR(.PLUS(RU)))) LU(.TIMES(BAD)) LU2(.SQUARED TENU CROSSING+
   OPPOSING(LU2) GUNU(TIMES(ASH)) SHESHIG(.TIMES(BAD)) TIMES(AL BAD DISH HAL IM KAD2 KI LAGAB NE NU
   SHU TAK4 TUG2 ESH2(.TENU PLUS(LAL)) GAN2(TENU) HI(TIMES(BAD)) KAD3(.PLUS(ASH)) LA+SI(PLUS(ASH))
   ME(PLUS(EN)) PAP(.PLUS(PAP(PLUS(LU3)))) SIK2(PLUS(BU)))) LUGAL(.SHESHIG OPPOSING+OVER(LUGAL))
   LUM(.OVER(LUM(.GAR(OVER(GAR))))) MA+SI(.GUNU TIMES(TAK4)) MI(.PLUS(ZA7)) MU(.OVER(MU)) MUSH(
   .CROSSING(MUSH) OVER(MUSH(.TIMES(GA KAK A(PLUS(NA))))) TIMES(A KUR ZA)) MUSH3(.GUNU TIMES(DI ZA
   A(.PLUS(DI)))) NAGA(.INVERTED OPPOSING(NAGA) TIMES(SHU(TENU))) NAM(.NUTILLU) NE(.SHESHIG TIMES(A
   UD)) NI(.TIMES(E)) NIM(.TIMES(GAN2(TENU) GAR(PLUS(GAN2(TENU))))) NINDA2(.TIMES(AN BAL GI GISH
   GUD GUL HI KESH2 LAK-050 MASH NE NUN URUDA USH ASH(.PLUS(ASH)) DIM(GUNU) ME(PLUS(GAN2(TENU)))
   PAP(PLUS(PAP)) SHE(.PLUS(A(AN) ASH(.PLUS(ASH)))) U(.PLUS(U)) U2(PLUS(ASH)))) NU11(.TENU OVER(
   NU11(BUR(OVER(BUR)))) ROTATED(NINETY(DEGREES))) NUN(.TENU CROSSING(NUN(.LAGAR(OVER(LAGAR))))
   LAGAR(TIMES(GAR MASH USH SAL(.OVER(NUN(LAGAR(TIMES(SAL))))))) OVER(NUN)) NUNUZ(.AB2(TIMES(ASHGAB
   BI DUG GUD KAD3 LA NE SILA3 U2 IGI(GUNU))) KISIM5(TIMES(BI(.U)))) PESH2(.ASTERISK) PI(.CROSSING(
   PI) TIMES(A AB BI BU E I IB U U2)) PIRIG(.OPPOSING(PIRIG) TIMES(KAL UD ZA)) SAG(.NUTILLU GUNU(
   .TIMES(HA)) OVER(SAG) TIMES(A DU DUB EN HA KAK KUR LUM MI NUN SAL SHID TAB TAK4 U2 UB UM UR USH
   IGI(GUNU) SHE(AT(LEFT)))) SAL(.LAGAB(TIMES(ASH2))) SHA3(.TIMES(A BAD GISH NE SHU2 TUR U(.PLUS(
   A)))) SHA6+TI(.TENU) SHE(.HU OVER(SHE(.GAD(OVER(GAD(GAR(OVER(GAR))))) TAB(OVER(TAB(GAR(OVER(
   GAR))))))) PLUS(HUB2 NAM2 SAR)) SHID(.TIMES(A IM)) SHIM(.TIMES(A BAL BULUG DIN GAR KUSHU2 LUL
   MUG SAL IGI(.GUNU))) SHIR(.TENU OVER(SHIR(BUR(OVER(BUR))))) SHU(.OVER(INVERTED(SHU))) SHU2(
   .PLUS(DUG(TIMES(NI)) E2(TIMES(AN)))) SIG4(.OVER(SIG4(SHU2))) SU(.OVER(SU)) TA(.ASTERISK GUNU
   TIMES(HI MI)) TAB(.SQUARED OVER(TAB(NI(OVER(NI(DISH(OVER(DISH)))))))) TAG(.TIMES(BI GUD SHE SHU
   TUG2 UD)) TAK4(.PLUS(SAG)) TIR(.OVER(TIR(.GAD(OVER(GAD(GAR(OVER(GAR))))))) TIMES(TAK4)) TUM(
   .TIMES(GAN2(TENU) THREE(DISH))) TUR(.OVER(TUR(ZA(OVER(ZA))))) U(.GUD OVER(U(PA(OVER(PA(GAR(OVER(
   GAR))))) SUR(OVER(SUR)) U(REVERSED(OVER(U(REVERSED)))))) U(.U)) UD(.GUNU KUSHU2 SHESHIG(.TIMES(
   BAD)) TIMES(BAD MI U(PLUS(U(PLUS(U(.GUNU))))))) UM(.TIMES(LAGAB SHA3 U ME(.PLUS(DA)))) UMUM(
   .TIMES(KASKAL PA)) UR(.SHESHIG CROSSING(UR)) UR2(.INVERTED TIMES(AL HA NUN UD A(PLUS(HA NA)) U2(
   .PLUS(ASH BI)))) URU(.TIMES(A ASHGAB BAR DARA3 DUN GA GAL GAR GU HA IGI IM ISH KI LAK-668 LU3
   LUM MIN PA SHE SIG4 TU UD URUDA GAN2(TENU) U(PLUS(GUD)))) URUDA(.TIMES(U)) USH(.TIMES(A KU KUR
   TAK4)) UZ3(.TIMES(KASKAL)) ZA(.TENU SQUARED(TIMES(KUR))) ZI(.OVER(ZI)) ZIB(.KABA(TENU)) ZU(
   .OVER(ZU(PLUS(SAR)))) ZU5(.TIMES(A THREE(DISH(TENU)))))) CUP(ON(BLACK(SQUARE)) WITH(STRAW))
   CURLING+GEM(STONE) CURLY(LOOP BRACKET(EXTENSION) LOGICAL(AND OR)) CURRENCY(EXCHANGE SIGN) CURRY(
   AND(RICE)) CURVED(STEM(PARAGRAPH(SIGN(ORNAMENT)))) CUT(OF(MEAT)) CYPRIOT(SYLLABLE(A E I JA JO KA
   KE KI KO KU LA LE LI LO LU MA ME MI MO MU NA NE NI NO NU O PA PE PI PO PU RA RE RI RO RU SA SE
   SI SO SU TA TE TI TO TU U WA WE WI WO XA XE ZA ZO)) CYPRO-MINOAN(SIGN(CM001~002 CM004~013 CM012B
   CM015 CM017 CM019 CM021 CM023~030 CM033~041 CM044 CM046~047 CM049~056 CM058~064 CM066~076 CM075B
   CM078~092 CM094~105 CM107~110 CM112 CM114 CM301~302)) CYRILLIC(KAVYKA PAYEROK CAPITAL(LETTER(BE
   CCHE DCHE DE DJE DJERV DWE DZE DZELO DZHE DZWE DZZE DZZHE EF FITA GJE HWE IO IOTA JE KJE KOPPA
   KSI LHA LJE NJE OT PSI QA RHA SHA SHCHA SHWE TCHE TSE TSHE TSSE TSWE TWE UK VE WE YA YAE YAT YI
   YN YU ZEMLYA ZHWE A(.WITH(BREVE DIAERESIS)) ABKHASIAN(DZE HA CHE(.WITH(DESCENDER))) ALEUT+
   BASHKIR(KA) BARRED(O(.WITH(DIAERESIS))) BIG+BLENDED+LITTLE(YUS) BINOCULAR+CROSSED+MONOCULAR(O)
   BROAD+ROUND(OMEGA) BYELORUSSIAN-UKRAINIAN(I) CHE(.WITH(DESCENDER DIAERESIS VERTICAL(STROKE)))
   CLOSED(LITTLE(YUS)) DOUBLE(O MONOCULAR(O)) E+O+SCHWA(.WITH(DIAERESIS)) EL(.WITH(DESCENDER HOOK
   TAIL MIDDLE(HOOK))) EM(.WITH(TAIL)) EN(.WITH(DESCENDER HOOK TAIL LEFT+MIDDLE(HOOK))) ER(.WITH(
   TICK)) ES+SHHA(.WITH(DESCENDER)) GHE(.WITH(DESCENDER UPTURN MIDDLE(HOOK) STROKE(.AND(HOOK))))
   HA(.WITH(DESCENDER HOOK STROKE)) HARD+SEMISOFT(SIGN) I(.WITH(DIAERESIS GRAVE MACRON)) IE(.WITH(
   BREVE GRAVE)) IOTIFIED(A E YAT BIG+LITTLE(YUS) CLOSED(LITTLE(YUS))) IZHITSA(.WITH(DOUBLE(GRAVE(
   ACCENT)))) KA(.WITH(DESCENDER HOOK STROKE VERTICAL(STROKE))) KHAKASSIAN(CHE) KOMI(DE DJE DZJE
   LJE NJE SJE TJE ZJE) MONOGRAPH(UK) NEUTRAL(YER) OMEGA(.WITH(TITLO)) PE+TE(.WITH(DESCENDER
   MIDDLE(HOOK))) REVERSED(DZE TSE YU ZE) SHORT(U I(.WITH(TAIL))) SOFT(DE EL EM SIGN) STRAIGHT(U(
   .WITH(STROKE))) U(.WITH(DIAERESIS MACRON DOUBLE(ACUTE))) UKRAINIAN(IE) YERU(.WITH(DIAERESIS
   BACK(YER))) ZE(.WITH(DESCENDER DIAERESIS)) ZHE(.WITH(BREVE DESCENDER DIAERESIS))) LIGATURE(A(IE)
   EN(GHE) TE(TSE))) LETTER(PALOCHKA MULTIOCULAR(O) SMALL(CAPITAL(EL))) SMALL(LETTER(BE CCHE DCHE
   DE DJE DJERV DWE DZE DZELO DZHE DZWE DZZE DZZHE EF FITA GJE HWE IO IOTA JE KJE KOPPA KSI LHA LJE
   NJE OT PALOCHKA PSI QA RHA SHA SHCHA SHWE TCHE TSE TSHE TSSE TSWE TWE UK VE WE YA YAE YAT YI YN
   YU ZEMLYA ZHWE A(.WITH(BREVE DIAERESIS)) ABKHASIAN(DZE HA CHE(.WITH(DESCENDER))) ALEUT+BASHKIR(
   KA) BARRED(O(.WITH(DIAERESIS))) BIG+BLENDED+LITTLE(YUS) BINOCULAR+CROSSED+MONOCULAR+NARROW(O)
   BROAD+ROUND(OMEGA) BYELORUSSIAN-UKRAINIAN(I) CHE(.WITH(DESCENDER DIAERESIS VERTICAL(STROKE)))
   CLOSED(LITTLE(YUS)) DOUBLE(O MONOCULAR(O)) E+O+SCHWA(.WITH(DIAERESIS)) EL(.WITH(DESCENDER HOOK
   TAIL MIDDLE(HOOK))) EM(.WITH(TAIL)) EN(.WITH(DESCENDER HOOK TAIL LEFT+MIDDLE(HOOK))) ER(.WITH(
   TICK)) ES+SHHA(.WITH(DESCENDER)) GHE(.WITH(DESCENDER UPTURN MIDDLE(HOOK) STROKE(.AND(HOOK))))
   HA(.WITH(DESCENDER HOOK STROKE)) HARD+SEMISOFT(SIGN) I(.WITH(DIAERESIS GRAVE MACRON)) IE(.WITH(
   BREVE GRAVE)) IOTIFIED(A E YAT BIG+LITTLE(YUS) CLOSED(LITTLE(YUS))) IZHITSA(.WITH(DOUBLE(GRAVE(
   ACCENT)))) KA(.WITH(DESCENDER HOOK STROKE VERTICAL(STROKE))) KHAKASSIAN(CHE) KOMI(DE DJE DZJE
   LJE NJE SJE TJE ZJE) LONG-LEGGED(DE) MONOGRAPH+UNBLENDED(UK) NEUTRAL(YER) OMEGA(.WITH(TITLO))
   PE+TE(.WITH(DESCENDER MIDDLE(HOOK))) REVERSED(DZE TSE YU ZE) ROUNDED(VE) SHORT(U I(.WITH(TAIL)))
   SOFT(DE EL EM SIGN) STRAIGHT(U(.WITH(STROKE))) TALL(TE YAT HARD(SIGN)) THREE-LEGGED(TE) U(.WITH(
   DIAERESIS MACRON DOUBLE(ACUTE))) UKRAINIAN(IE) WIDE(ES) YERU(.WITH(DIAERESIS BACK(YER))) ZE(
   .WITH(DESCENDER DIAERESIS)) ZHE(.WITH(BREVE DESCENDER DIAERESIS))) LIGATURE(A(IE) EN(GHE) TE(
   TSE))) THOUSANDS(SIGN)) DAGGER(.KNIFE WITH(LEFT+RIGHT(GUARD))) DARK(SHADE SUNGLASSES) DASH(
   SYMBOL WITH(LEFT(UPTURN))) DASHED(OVERLINE LOW(LINE) TRIANGLE-HEADED(RIGHTWARDS(ARROW))) DATA(
   LINK(ESCAPE)) DECIMAL(EXPONENT(SYMBOL) SEPARATOR(KEY(SYMBOL))) DECREASE+INCREASE(FONT(SIZE(
   SYMBOL))) DEGREE(CELSIUS FAHRENHEIT SIGN) DELIVERY+PICKUP(TRUCK) DENTISTRY(SYMBOL(LIGHT(DOWN+UP(
   AND(HORIZONTAL(.WITH(CIRCLE TRIANGLE WAVE)))) VERTICAL(AND(WAVE BOTTOM+TOP(LEFT RIGHT)) WITH(
   CIRCLE TRIANGLE))))) DERELICT(HOUSE(BUILDING)) DESERET(CAPITAL+SMALL(LETTER(AY BEE CHEE DEE EF
   EL EM EN ENG ER ES ESH ETH EW GAY H JEE KAY OI OW PEE TEE THEE VEE WU YEE ZEE ZHEE LONG+SHORT(A
   AH E I O OO)))) DESERT(.ISLAND) DESKTOP(COMPUTER WINDOW) DEVANAGARI(CARET DANDA HEADSTROKE OM
   ABBREVIATION(SIGN) ACUTE+GRAVE(ACCENT) DIGIT(EIGHT FIVE FOUR NINE ONE SEVEN SIX THREE TWO ZERO)
   DOUBLE(DANDA) GAP(FILLER) JAIN(OM) LETTER(A AA AI AU AW AY BA BBA BHA CA CHA DA DDA DDDA DDDHA
   DDHA DHA E FA GA GGA GHA GHHA HA I II JA JHA JJA KA KHA KHHA LA LLA LLLA MA NA NGA NNA NNNA NYA
   O OE OOE PA PHA QA RA RHA RRA SA SHA SSA TA THA TTA TTHA U UE UU UUE VA YA YYA ZA ZHA CANDRA+
   SHORT(A E O) GLOTTAL(STOP) HEAVY(YA) MARWARI(DDA) VOCALIC(L LL R RR)) SIGN(ANUSVARA AVAGRAHA
   NUKTA PUSHPIKA SIDDHAM VIRAMA VISARGA CANDRABINDU(.AVAGRAHA THREE TWO VIRAMA) DOUBLE(
   CANDRABINDU(VIRAMA)) HIGH(SPACING(DOT)) INVERTED+SPACING(CANDRABINDU)) STRESS(SIGN(ANUDATTA
   UDATTA)) VOWEL(SIGN(AA AI AU AW AY E I II O OE OOE U UE UU UUE CANDRA(E O LONG(E))
   PRISHTHAMATRA(E) SHORT(E O) VOCALIC(L LL R RR)))) DEVICE(CONTROL(FOUR ONE STRING THREE TWO))
   DIAMOND(OPERATOR TARGET SHAPE(WITH(A(DOT(INSIDE)))) WITH(BOTTOM+LEFT+RIGHT+TOP(HALF(BLACK))))
   DIE(FACE-1~6) DIESEL+STEAM(LOCOMOTIVE) DIFFERENCE(BETWEEN) DIGIT(EIGHT+FIVE+FOUR+NINE+ONE+SEVEN+
   SIX+THREE+TWO+ZERO(.COMMA FULL(STOP))) DIGRAM(FOR(EARTH EARTHLY(HEAVEN HUMAN) GREATER+LESSER(
   YANG YIN) HEAVENLY+HUMAN(EARTH))) DIMENSION(ORIGIN) DINGBAT(CIRCLED(SANS-SERIF(DIGIT(EIGHT FIVE
   FOUR NINE ONE SEVEN SIX THREE TWO ZERO) NUMBER(TEN))) NEGATIVE(CIRCLED(DIGIT(EIGHT FIVE FOUR
   NINE ONE SEVEN SIX THREE TWO) NUMBER(TEN) SANS-SERIF(DIGIT(EIGHT FIVE FOUR NINE ONE SEVEN SIX
   THREE TWO ZERO) NUMBER(TEN))))) DIRECT(HIT CURRENT(SYMBOL(FORM(TWO)))) DISABLED(CAR)
   DISAPPOINTED(FACE BUT(RELIEVED(FACE))) DIVES(AKURU(VIRAMA DIGIT(EIGHT FIVE FOUR NINE ONE SEVEN
   SIX THREE TWO ZERO) DOUBLE(DANDA) END(OF(TEXT(MARK))) GAP(FILLER) INITIAL(RA) LETTER(A AA BA BHA
   CA CHA DA DDA DDHA DHA E GA GHA HA I II JA KA KHA LA LLA MA NA NGA NNA NYA O PA PHA RA SA SHA
   SSA TA THA TTA U UU VA YA YYA ZA) MEDIAL(RA YA) PREFIXED(NASAL(SIGN)) SIGN(ANUSVARA CANDRABINDU
   HALANTA NUKTA) VOWEL(SIGN(AA AI E I II O U UU)))) DIVING(MASK) DIVISION(SIGN SLASH TIMES) DIYA(
   LAMP) DIZZY(FACE SYMBOL) DNA(DOUBLE(HELIX)) DO(NOT(LITTER(SYMBOL))) DOCUMENT(.WITH(PICTURE TEXT(
   .AND(PICTURE)))) DOES(NOT(FORCE PROVE CONTAIN(AS(MEMBER NORMAL(SUBGROUP(.OR(EQUAL))))) DIVIDE(
   .WITH(REVERSED(NEGATION(SLASH)))) PRECEDE+SUCCEED(.OR(EQUAL)))) DOGRA(ABBREVIATION(SIGN) LETTER(
   A AA AI AU BA BHA CA CHA DA DDA DDHA DHA E GA GHA HA I II JA JHA KA KHA LA MA NA NGA NNA NYA O
   PA PHA RA RRA SA SHA SSA TA THA TTA TTHA U UU VA YA) SIGN(ANUSVARA NUKTA VIRAMA VISARGA) VOWEL(
   SIGN(AA AI AU E I II O U UU VOCALIC(R RR)))) DOMINO(TILE(HORIZONTAL-00-00~06 HORIZONTAL-01-00~06
   HORIZONTAL-02-00~06 HORIZONTAL-03-00~06 HORIZONTAL-04-00~06 HORIZONTAL-05-00~06
   HORIZONTAL-06-00~06 VERTICAL-00-00~06 VERTICAL-01-00~06 VERTICAL-02-00~06 VERTICAL-03-00~06
   VERTICAL-04-00~06 VERTICAL-05-00~06 VERTICAL-06-00~06 HORIZONTAL+VERTICAL(BACK))) DOT(ABOVE
   MINUS OPERATOR PLUS) DOTTED(CIRCLE CROSS FENCE OBELOS SOLIDUS SQUARE LINE(FACE) RIGHT-POINTING(
   ANGLE) TRANSPOSITION(MARKER)) DOUBLE(DAGGER HYPHEN INTEGRAL INTERSECTION PLUS PRECEDES SUBSET
   SUCCEEDS SUPERSET UNION ACUTE(ACCENT) CIRCLED(DIGIT(EIGHT FIVE FOUR NINE ONE SEVEN SIX THREE
   TWO) NUMBER(TEN)) COLON(EQUAL) CURLY(LOOP) DOWN+UP(TACK) EXCLAMATION+QUESTION+SUSPENSION(MARK)
   HIGH-REVERSED-9+LOW-9+LOW-REVERSED-9(QUOTATION(MARK)) LEFT(ARC(GREATER-THAN(BRACKET))) LOGICAL(
   AND OR) LOW(LINE) NESTED(GREATER-THAN LESS-THAN(.WITH(UNDERBAR))) OBLIQUE(HYPHEN) PRIME(
   .QUOTATION(MARK)) RIGHT(ARC(LESS-THAN(BRACKET))) SOLIDUS(OPERATOR) SQUARE(INTERSECTION UNION)
   STACKED(COMMA) STROKE(NOT(SIGN)) VERTICAL(LINE BAR(.DOUBLE(LEFT+RIGHT(TURNSTILE)) LEFT(
   TURNSTILE))) WAVY(OVERLINE)) DOUBLE-ENDED(MULTIMAP) DOUBLE-LINE(EQUAL(TO(OR(GREATER-THAN
   LESS-THAN))) SLANTED(EQUAL(TO(OR(GREATER-THAN LESS-THAN))) GREATER-THAN+LESS-THAN(OR(EQUAL(
   TO))))) DOUBLE-STRUCK(CAPITAL(C GAMMA H N P PI Q R Z) ITALIC(CAPITAL(D) SMALL(D E I J)) N-ARY(
   SUMMATION) SMALL(GAMMA PI)) DOUBLED(SYMBOL FEMALE+MALE(SIGN)) DOVE(OF(PEACE)) DOWN(ARROWHEAD
   FISH(TAIL) RIGHT(DIAGONAL(ELLIPSIS)) TACK(.WITH(CIRCLE(BELOW)))) DOWN-POINTING(RED(TRIANGLE)
   SMALL(RED(TRIANGLE)) TRIANGLE(WITH(LEFT+RIGHT(HALF(BLACK))))) DOWNWARD(FACING(HOOK(.WITH(DOT))
   NOTCHED(HOOK(.WITH(DOT))))) DOWNWARDS(ANCORA ROCKET ARROW(.AND(RIGHT(ONE(EIGHTH(BLOCK)))) FROM+
   TO(BAR) LEFTWARDS(OF(UPWARDS(ARROW))) WITH(CORNER(LEFTWARDS) DOUBLE+HORIZONTAL(STROKE)
   EQUILATERAL(ARROWHEAD) LARGE+MEDIUM(TRIANGLE(ARROWHEAD)) NOTCHED(TAIL) SMALL(EQUILATERAL+
   TRIANGLE(ARROWHEAD)) TIP(LEFTWARDS RIGHTWARDS))) BLACK(ARROW CIRCLED(WHITE(ARROW))) COMPRESSED+
   DASHED+DOUBLE+FINGER-POST+QUADRUPLE+SANS-SERIF+SQUARED+TRIPLE+ZIGZAG(ARROW) HARPOON(WITH(BARB(
   LEFTWARDS RIGHTWARDS LEFT(BESIDE(DOWNWARDS+UPWARDS(HARPOON(WITH(BARB(RIGHT))))) FROM+TO(BAR))
   RIGHT(FROM+TO(BAR))))) HEAVY(ARROW COMPRESSED(ARROW)) PAIRED(ARROWS) TRIANGLE(ARROWHEAD)
   TRIANGLE-HEADED(ARROW(.LEFTWARDS(OF(UPWARDS(TRIANGLE-HEADED(ARROW)))) TO(BAR) WITH(BOLD+HEAVY+
   MEDIUM+NARROW(SHAFT) DOUBLE(HORIZONTAL(STROKE)) LONG(TIP(LEFTWARDS RIGHTWARDS)) VERY(HEAVY(
   SHAFT)))) DASHED+ZIGZAG(ARROW) PAIRED(ARROWS)) TWO(HEADED(ARROW)) TWO-HEADED(ARROW(WITH(
   TRIANGLE(ARROWHEADS)))) WHITE(ARROW(.WITHIN(TRIANGLE(ARROWHEAD))))) DRAFTING(POINT(RIGHTWARDS(
   ARROW))) DRIVE(SLOW(SIGN)) DROP(OF(BLOOD)) DRUM(WITH(DRUMSTICKS)) DUPLOYAN(AFFIX(ATTACHED(SECANT
   TAIL E+I(HOOK) LEFT-TO-RIGHT(SECANT) TANGENT(.HOOK)) HIGH(ACUTE CIRCLE DOT GRAVE LINE WAVE LONG(
   GRAVE) TIGHT(ACUTE) VERTICAL(.SECANT)) LEFT+RIGHT(HORIZONTAL(SECANT)) LOW(ACUTE ARROW CIRCLE DOT
   GRAVE LINE WAVE LONG(GRAVE) TIGHT(ACUTE) VERTICAL(.SECANT)) MID(HORIZONTAL+VERTICAL(SECANT)))
   DOUBLE(MARK) LETTER(A AOU B DH E EE EU H HL I IE KK L LH O OA OOH OU OW RH TH UH UI V WA WEI WH
   WI WO WOW X XW YE D+R(.S) F+P+U(.N) G(.R(S)) J(.M+N(.S) S(.WITH(DOT)) WITH(DOT DOTS(INSIDE(AND(
   ABOVE))))) K(.M R(S)) LONG+ROMANIAN(I U) M(.S N(.S) WITH(DOT)) N(.S M(.S) WITH(DOT)) NASAL(A I O
   U) PERNIN(AM AN) S(.M N S J(.S) K+P+T(.R) WITH(DOT(.BELOW))) SHORT(I) SLOAN(AN DH EE EH EN J ON
   OW U) T(.S R(S)) VOCALIC(M) W(.R)) PUNCTUATION(CHINOOK(FULL(STOP))) SIGN(O(WITH(CROSS))) THICK(
   LETTER(SELECTOR))) EAR(.OF(MAIZE RICE) WITH(HEARING(AID))) EARTH(.GROUND GLOBE(AMERICAS
   ASIA-AUSTRALIA EUROPE-AFRICA)) EAST+WEST(SYRIAC(CROSS)) EDITORIAL(CORONIS) EGYPTIAN(HIEROGLYPH(
   A001~070 A005A A006A A006B A014A A017A A032A A040A A042A A043A A045A AA001~032 AA007A AA007B
   B001~009 B005A C001~024 C002A C002B C002C C010A D001~067 D008A D027A D031A D034A D046A D048A
   D050A D050B D050C D050D D050E D050F D050G D050H D050I D052A D054A D067A D067B D067C D067D D067E
   D067F D067G D067H E001~034 E008A E009A E016A E017A E020A E028A E034A E036~038 F001~053 F001A
   F013A F021A F031A F037A F038A F045A F046A F047A F051A F051B F051C G001~054 G006A G007A G007B
   G011A G020A G026A G036A G037A G043A G045A H001~008 H006A I001~015 I005A I009A I010A I011A
   K001~008 L001~008 L002A L006A M001~044 M001A M001B M003A M010A M012A M012B M012C M012D M012E
   M012F M012G M012H M015A M016A M017A M022A M024A M028A M031A M033A M033B M040A N001~042 N018A
   N018B N025A N033A N034A N035A N037A NL001~020 NL005A NL017A NU001~022 NU010A NU011A NU018A
   NU022A O001~051 O001A O005A O006A O006B O006C O006D O006E O006F O010A O010B O010C O019A O020A
   O024A O025A O029A O030A O033A O036A O036B O036C O036D O050A O050B P001~011 P001A P003A Q001~007
   R001~029 R002A R003A R003B R010A R016A S001~046 S002A S006A S014A S014B S017A S026A S026B S035A
   T001~036 T003A T007A T008A T009A T011A T016A T032A T033A U001~042 U006A U006B U023A U029A U032A
   V001~040 V001A V001B V001C V001D V001E V001F V001G V001H V001I V002A V007A V007B V011A V011B
   V011C V012A V012B V020A V020B V020C V020D V020E V020F V020G V020H V020I V020J V020K V020L V023A
   V028A V029A V030A V031A V033A V037A V040A W001~025 W003A W009A W010A W014A W017A W018A W024A
   X001~008 X004A X004B X006A X008A Y001~008 Y001A Z001~016 Z002A Z002B Z002C Z002D Z003A Z003B
   Z004A Z005A Z015A Z015B Z015C Z015D Z015E Z015F Z015G Z015H Z015I Z016A Z016B Z016C Z016D Z016E
   Z016F Z016G Z016H BEGIN+END(SEGMENT) HORIZONTAL+VERTICAL(JOINER) INSERT(AT(BOTTOM+TOP(END
   START))) OVERLAY(MIDDLE))) EIGHT(PETALLED(OUTLINED(BLACK(FLORETTE))) POINTED(BLACK+PINWHEEL(
   STAR) RECTILINEAR(BLACK(STAR))) SPOKED(ASTERISK) TEARDROP-SPOKED(PROPELLER(ASTERISK))) EIGHTH+
   QUARTER(NOTE) ELBASAN(LETTER(A BE CE CHE DE DHE E EI FE GE GHAMMA GHE GJE HE I JE KE KHE LE LLE
   ME NA NDE NE NJE O PE QE RE RRE SE SHE TE THE U VE XE Y ZE ZHE)) ELECTRIC(ARROW PLUG TORCH
   LIGHT(BULB)) ELECTRICAL+TRANSVERSAL(INTERSECTION) ELEMENT(OF(.OPENING(DOWNWARDS UPWARDS) WITH(
   OVERBAR UNDERBAR DOT(ABOVE) LONG(HORIZONTAL(STROKE)) TWO(HORIZONTAL(STROKES)) VERTICAL(BAR(AT(
   END(OF(HORIZONTAL(STROKE))))))))) ELYMAIC(LETTER(ALEPH AYIN BETH DALETH GIMEL HE HETH KAPH
   LAMEDH MEM NUN PE QOPH RESH SADHE SAMEKH SHIN TAW TETH WAW YODH ZAYIN) LIGATURE(ZAYIN-YODH)) EM+
   EN(DASH QUAD SPACE) EMOJI(COMPONENT(BALD CURLY+RED+WHITE(HAIR)) MODIFIER(FITZPATRICK(TYPE-1-2
   TYPE-3~6))) EMPTY(DOCUMENT NEST PAGE PAGES NOTE(.PAD PAGE) SET(.WITH(OVERBAR LEFT+RIGHT(ARROW(
   ABOVE)) SMALL(CIRCLE(ABOVE))))) END(OF(LINE MEDIUM PROOF TEXT GUARDED+PROTECTED+SELECTED(AREA)
   TRANSMISSION(.BLOCK)) WITH(LEFTWARDS(ARROW(ABOVE)))) ENVELOPE(.WITH(LIGHTNING DOWNWARDS(ARROW(
   ABOVE)))) EQUAL(AND(PARALLEL(TO)) TO(BY(DEFINITION) OR(GREATER-THAN LESS-THAN PRECEDES
   SUCCEEDS))) EQUALS(COLON SIGN(.ABOVE(LEFTWARDS+RIGHTWARDS(ARROW) PLUS(SIGN) TILDE(OPERATOR))
   AND(SLANTED(PARALLEL(.WITH(TILDE(ABOVE))))) WITH(BUMPY(ABOVE) DOT+INFINITY(BELOW) TWO(DOTS(
   ABOVE(AND(TWO(DOTS(BELOW)))))))) WITH(ASTERISK)) EQUIVALENT(TO WITH(FOUR(DOTS(ABOVE)))) ERASE(
   TO(THE(LEFT RIGHT))) ERIS(FORM(ONE TWO)) ERROR-BARRED(BLACK+WHITE(CIRCLE DIAMOND SQUARE))
   ETHIOPIC(COLON COMMA SEMICOLON WORDSPACE COMBINING(GEMINATION(MARK AND(VOWEL(LENGTH(MARK))))
   VOWEL(LENGTH(MARK))) DIGIT(EIGHT FIVE FOUR NINE ONE SEVEN SIX THREE TWO) FULL(STOP) NUMBER(
   EIGHTY FIFTY FORTY HUNDRED NINETY SEVENTY SIXTY THIRTY TWENTY TEN(.THOUSAND)) PARAGRAPH(
   SEPARATOR) PREFACE(COLON) QUESTION+SECTION(MARK) SYLLABLE(BA BAA BBA BBAA BBE BBEE BBI BBO BBU
   BE BEE BI BO BOA BU BWA BWE BWEE BWI CA CAA CCA CCAA CCE CCEE CCHA CCHAA CCHE CCHEE CCHHA CCHHAA
   CCHHE CCHHEE CCHHI CCHHO CCHHU CCHI CCHO CCHU CCI CCO CCU CE CEE CHA CHAA CHE CHEE CHI CHO CHOA
   CHU CHWA CI CO COA CU CWA DA DAA DDA DDAA DDE DDEE DDHAA DDHE DDHEE DDHI DDHO DDHU DDI DDO DDOA
   DDU DDWA DE DEE DI DO DOA DU DWA DZAA DZE DZEE DZI DZO DZU FA FAA FE FEE FI FO FU FWA FWE FWEE
   FWI FYA GA GAA GE GEE GGA GGAA GGE GGEE GGI GGO GGU GGWA GGWAA GGWE GGWEE GGWI GI GO GOA GU GWA
   GWAA GWE GWEE GWI GYA GYAA GYE GYEE GYI GYO GYU HA HAA HE HEE HHA HHAA HHE HHEE HHI HHO HHU HHWA
   HHWE HHWEE HHWI HHYA HHYAA HHYE HHYEE HHYI HHYO HHYU HI HO HOA HU JA JAA JE JEE JI JO JOA JU JWA
   KA KAA KE KEE KI KO KOA KU KWA KWAA KWE KWEE KWI KXA KXAA KXE KXEE KXI KXO KXU KXWA KXWAA KXWE
   KXWEE KXWI KYA KYAA KYE KYEE KYI KYO KYU LA LAA LE LEE LI LO LOA LU LWA MA MAA ME MEE MI MO MOA
   MU MWA MWE MWEE MWI MYA NA NAA NE NEE NI NO NOA NU NWA NYA NYAA NYE NYEE NYI NYO NYOA NYU NYWA
   PA PAA PE PEE PHA PHAA PHE PHEE PHI PHO PHOA PHU PHWA PI PO POA PU PWA PWE PWEE PWI QA QAA QE
   QEE QHA QHAA QHE QHEE QHI QHO QHU QHWA QHWAA QHWE QHWEE QHWI QI QO QOA QU QWA QWAA QWE QWEE QWI
   QYA QYAA QYE QYEE QYI QYO QYU RA RAA RE REE RI RO ROA RU RWA RYA SA SAA SE SEE SHA SHAA SHE SHEE
   SHI SHO SHOA SHU SHWA SI SO SOA SSA SSAA SSE SSEE SSI SSO SSU SU SWA SZA SZAA SZE SZEE SZI SZO
   SZU SZWA TA TAA TE TEE THA THAA THE THEE THI THO THOA THU THWA TI TO TOA TSA TSAA TSE TSEE TSI
   TSO TSU TSWA TTHAA TTHE TTHEE TTHI TTHO TTHU TU TWA TZA TZAA TZE TZEE TZI TZO TZOA TZU VA VAA VE
   VEE VI VO VU VWA WA WAA WE WEE WI WO WOA WU XA XAA XE XEE XI XO XOA XU XWA XWAA XWE XWEE XWI XYA
   XYAA XYE XYEE XYI XYO XYU YA YAA YE YEE YI YO YOA YU ZA ZAA ZE ZEE ZHA ZHAA ZHE ZHEE ZHI ZHO ZHU
   ZHWA ZI ZO ZOA ZU ZWA ZZA ZZAA ZZE ZZEE ZZI ZZO ZZU GLOTTAL(A AA E EE I O OA U WA) GURAGE(BWEE
   BWI FWEE FWI GWE GWEE GWI HHWA KWE KWEE KWI MWEE MWI PWEE PWI QWE QWEE QWI) PHARYNGEAL(A AA E EE
   I O U) SEBATBEIT(BWA FWA MWA PWA)) TONAL(MARK(CHIRET DERET DERET-HIDET DIFAT HIDET KENAT KURT
   RIKRIK YIZET SHORT(RIKRIK)))) EULER(CONSTANT) EUROPEAN(CASTLE POST(OFFICE)) EXCLAMATION(MARK
   QUESTION(MARK)) EXTENDED(ARABIC-INDIC(DIGIT(EIGHT FIVE FOUR NINE ONE SEVEN SIX THREE TWO ZERO)))
   EXTRATERRESTRIAL(ALIEN) EXTREMELY(HEAVY(SALTIRE FIVE+SIX(SPOKED(ASTERISK)) GREEK(CROSS) WHITE(
   CIRCLE SQUARE))) FACE(MASSAGE PALM HOLDING(BACK(TEARS)) SAVOURING(DELICIOUS(FOOD)) SCREAMING(IN(
   FEAR)) THROWING(A(KISS)) WITH(HEAD-BANDAGE MONOCLE THERMOMETER COLD(SWEAT) COWBOY(HAT) DIAGONAL(
   MOUTH) FINGER(COVERING(CLOSED(LIPS))) LOOK(OF(TRIUMPH)) MEDICAL(MASK) NO(GOOD(GESTURE)) OK(
   GESTURE) ONE(EYEBROW(RAISED)) OPEN(EYES(AND(HAND(OVER(MOUTH)))) MOUTH(.VOMITING AND(COLD(
   SWEAT)))) PARTY(HORN(AND(PARTY(HAT)))) PEEKING(EYE) PLEADING+ROLLING(EYES) STUCK-OUT(TONGUE(
   .AND(TIGHTLY-CLOSED(EYES) WINKING(EYE)))) TEARS(OF(JOY)) UNEVEN(EYES(AND(WAVY(MOUTH)))))
   WITHOUT(MOUTH)) FALLEN+MAPLE(LEAF) FALLING(DIAGONAL(CROSSING(NORTH(EAST(ARROW)) RISING(
   DIAGONAL)) IN(WHITE(CIRCLE(IN(BLACK(SQUARE))))))) FATHER+MOTHER(CHRISTMAS) FAX(ICON MACHINE)
   FEMININE+MASCULINE(ORDINAL(INDICATOR)) FERRIS(WHEEL) FIELD(HOCKEY(STICK(AND(BALL)))) FIGURE(DASH
   SPACE) FILE(CABINET FOLDER SEPARATOR) FILM(FRAMES PROJECTOR) FINITE(PART(INTEGRAL)) FIRE(.ENGINE
   EXTINGUISHER) FIREWORK(SPARKLER) FIRST(PLACE(MEDAL) QUARTER(MOON(.SYMBOL WITH(FACE))) STRONG(
   ISOLATE)) FISH(.CAKE(WITH(SWIRL(DESIGN)))) FISHING(POLE(AND(FISH))) FISTED+OK(HAND(SIGN)) FIVE(
   DOT(MARK PUNCTUATION)) FLAG(IN(HOLE)) FLEXED(BICEPS) FLOPPY+HARD(DISK) FLOWER(.PLAYING(CARDS)
   PUNCTUATION(MARK)) FLYING(DISC ENVELOPE SAUCER) FOR(ALL) FORK(AND(KNIFE(.WITH(PLATE)))) FORKED(
   PARAGRAPHOS) FORM(FEED) FORTUNE(COOKIE) FOUR(BALLOON-SPOKED+CLUB-SPOKED+TEARDROP-SPOKED(
   ASTERISK) CORNER(ARROWS(CIRCLING(ANTICLOCKWISE))) DOT(MARK PUNCTUATION) LEAF(CLOVER) POINTED(
   BLACK(STAR))) FOUR-PER-EM+HAIR+NO-BREAK+PUNCTUATION+SIX-PER-EM+THREE-PER-EM(SPACE) FRACTION(
   SLASH NUMERATOR(ONE)) FRAME(WITH(PICTURE TILES AN(X))) FRENCH(FRIES FRANC(SIGN)) FRIED(SHRIMP)
   FRONT-FACING(BABY(CHICK)) FROWNING(FACE(WITH(OPEN(MOUTH)))) FUEL(PUMP) FULL(BLOCK STOP MOON(
   SYMBOL WITH(FACE)) OUTER(JOIN)) FULLWIDTH(AMPERSAND APOSTROPHE ASTERISK COLON COMMA HYPHEN-MINUS
   MACRON SEMICOLON SOLIDUS TILDE BROKEN(BAR) CENT+DOLLAR+EQUALS+GREATER-THAN+LESS-THAN+NOT+NUMBER+
   PERCENT+PLUS+POUND+WON+YEN(SIGN) CIRCUMFLEX+GRAVE(ACCENT) COMMERCIAL(AT) DIGIT(EIGHT FIVE FOUR
   NINE ONE SEVEN SIX THREE TWO ZERO) EXCLAMATION+QUESTION+QUOTATION(MARK) FULL(STOP) LATIN(
   CAPITAL+SMALL(LETTER(A B C D E F G H I J K L M N O P Q R S T U V W X Y Z))) LEFT+RIGHT(
   PARENTHESIS CURLY+SQUARE(BRACKET) WHITE(PARENTHESIS)) LOW+VERTICAL(LINE) REVERSE(SOLIDUS))
   FUNCTION(APPLICATION) FUNERAL(URN) GAME(DIE) GEAR(.WITH(HANDLES) WITHOUT(HUB)) GEOMETRIC(
   PROPORTION) GEOMETRICALLY(EQUAL+EQUIVALENT(TO)) GEORGIAN(CAPITAL+SMALL(LETTER(AEN AN BAN CAN
   CHAR CHIN CIL DON EN GAN GHAN HAE HAR HE HIE HOE IN JHAN JIL KAN KHAR LAS MAN NAR ON PAR PHAR
   QAR RAE SAN SHIN TAN TAR UN VIN WE XAN YN ZEN ZHAR)) LETTER(AEN AIN AN BAN CAN CHAR CHIN CIL DON
   ELIFI EN FI GAN GHAN HAE HAR HE HIE HOE IN JHAN JIL KAN KHAR LAS MAN NAR ON PAR PHAR QAR RAE SAN
   SHIN TAN TAR UN VIN WE XAN YN ZEN ZHAR HARD+LABIAL(SIGN) TURNED(GAN)) MTAVRULI(CAPITAL(LETTER(
   AEN AIN AN BAN CAN CHAR CHIN CIL DON ELIFI EN FI GAN GHAN HAE HAR HE HIE HOE IN JHAN JIL KAN
   KHAR LAS MAN NAR ON PAR PHAR QAR RAE SAN SHIN TAN TAR UN VIN WE XAN YN ZEN ZHAR HARD+LABIAL(
   SIGN) TURNED(GAN)))) PARAGRAPH(SEPARATOR)) GERMAN(PENNY(SIGN)) GLAGOLITIC(CAPITAL+SMALL(LETTER(
   AZU BUKY CHRIVI DJERVI DOBRO DZELO FITA FRITU GLAGOLI HERU I IZHE IZHITSA KAKO LJUDIJE MYSLITE
   NASHI ONU OTU PE POKOJI RITSI SHA SHTA SHTAPIC SLOVO TSI TVRIDO UKU VEDE YATI YERI YERU YESTU YO
   YU ZEMLJA ZHIVETE BIG(YUS) CAUDATE(CHRIVI) INITIAL(IZHE) IOTATED(BIG+SMALL(YUS)) LATINATE(
   MYSLITE) SMALL(YUS(.WITH(TAIL))) SPIDERY(HA) TROKUTASTI(A)))) GLASS(OF(MILK)) GLEICH(STARK)
   GLOBE(WITH(MERIDIANS)) GLOWING+PINWHEEL+SHOOTING(STAR) GOAL(NET) GOTHIC(LETTER(AHSA AIHVUS
   BAIRKAN DAGS EIS FAIHU GIBA HAGL HWAIR IGGWS IUJA JER KUSMA LAGUS MANNA NAUTHS NINETY OTHAL
   PAIRTHRA QAIRTHRA RAIDA SAUIL TEIWS THIUTH URUS WINJA NINE(HUNDRED))) GRANTHA(OM AU(LENGTH(
   MARK)) LETTER(A AA AI AU BA BHA CA CHA DA DDA DDHA DHA EE GA GHA HA I II JA JHA KA KHA LA LLA MA
   NA NGA NNA NYA OO PA PHA RA SA SHA SSA TA THA TTA TTHA U UU VA YA VEDIC(ANUSVARA DOUBLE(
   ANUSVARA)) VOCALIC(L LL R RR)) SIGN(ANUSVARA AVAGRAHA CANDRABINDU NUKTA PLUTA VIRAMA VISARGA
   COMBINING(ANUSVARA(ABOVE))) VOWEL(SIGN(AA AI AU EE I II OO U UU VOCALIC(L LL R RR))))
   GREATER-THAN(SIGN ABOVE(DOUBLE-LINE(EQUAL(ABOVE(LESS-THAN))) LESS-THAN(ABOVE(DOUBLE-LINE(
   EQUAL))) RIGHTWARDS(ARROW) SIMILAR(ABOVE(LESS-THAN) OR(EQUAL)) SLANTED(EQUAL(ABOVE(LESS-THAN(
   ABOVE(SLANTED(EQUAL))))))) AND(NOT(APPROXIMATE) SINGLE-LINE(NOT(EQUAL(TO)))) BESIDE+OVERLAPPING(
   LESS-THAN) BUT(NOT(EQUAL+EQUIVALENT(TO))) CLOSED(BY(CURVE(.ABOVE(SLANTED(EQUAL))))) EQUAL(TO(OR(
   LESS-THAN))) OR(APPROXIMATE LESS-THAN EQUAL+EQUIVALENT(TO) SLANTED(EQUAL(TO(.WITH(DOT(INSIDE
   ABOVE(.LEFT))))))) OVER(EQUAL(TO)) WITH(DOT CIRCLE(INSIDE) QUESTION(MARK(ABOVE)))) GREEK(KORONIS
   OXIA PERISPOMENI PROSGEGRAMMENI TONOS VARIA YPOGEGRAMMENI ACROPHONIC(ATTIC(FIFTY(.STATERS
   TALENTS THOUSAND(.STATERS)) FIVE(.STATERS TALENTS HUNDRED(.STATERS TALENTS) THOUSAND(.TALENTS))
   ONE(DRACHMA HALF QUARTER HUNDRED+THOUSAND(STATERS TALENTS)) TEN(MNAS STATERS TALENTS THOUSAND(
   STATERS))) CARYSTIAN+NAXIAN(FIVE(HUNDRED)) CYRENAIC(TWO(DRACHMAS)) DELPHIC(FIVE(MNAS))
   EPIDAUREAN(FIVE(HUNDRED) TWO(.DRACHMAS)) HERAEUM(ONE(PLETHRON)) HERMIONIAN(FIFTY ONE TEN)
   MESSENIAN(TEN) STRATIAN(FIFTY(MNAS)) THESPIAN(FIFTY TEN THIRTY TWO FIVE(HUNDRED THOUSAND) ONE(
   .HUNDRED THOUSAND) THREE(HUNDRED)) TROEZENIAN(FIFTY+TEN(.ALTERNATE(FORM)) FIVE(.HUNDRED))) ANO(
   TELEIA) AROURA+ARTABE+DRACHMA+GRAMMA+INDICTION+LITRA+METRETES+NUMERAL+OBOL+OUNKIA+SINUSOID+
   TALENT+XESTES+YEAR+ZERO(SIGN) BETA+KAI+KAPPA+PHI+PI+THETA(SYMBOL) CAPITAL(DOTTED(LUNATE(SIGMA(
   SYMBOL))) KAI+THETA(SYMBOL) LETTER(BETA CHI DELTA GAMMA HETA KAPPA LAMDA MU NU PHI PI PSI SAN
   SHO SIGMA TAU THETA XI YOT ZETA ALPHA(.WITH(MACRON OXIA PROSGEGRAMMENI TONOS VARIA VRACHY DASIA+
   PSILI(.AND(PROSGEGRAMMENI OXIA+PERISPOMENI+VARIA(.AND(PROSGEGRAMMENI)))))) ARCHAIC(SAMPI)
   EPSILON+OMICRON(.WITH(OXIA TONOS VARIA DASIA+PSILI(.AND(OXIA VARIA)))) ETA+OMEGA(.WITH(OXIA
   PROSGEGRAMMENI TONOS VARIA DASIA+PSILI(.AND(PROSGEGRAMMENI OXIA+PERISPOMENI+VARIA(.AND(
   PROSGEGRAMMENI)))))) IOTA(.WITH(DIALYTIKA MACRON OXIA TONOS VARIA VRACHY DASIA+PSILI(.AND(OXIA
   PERISPOMENI VARIA)))) PAMPHYLIAN(DIGAMMA) RHO(.WITH(DASIA)) UPSILON(.WITH(DIALYTIKA MACRON OXIA
   TONOS VARIA VRACHY DASIA(.AND(OXIA PERISPOMENI VARIA))))) LUNATE(SIGMA(SYMBOL)) REVERSED(DOTTED(
   LUNATE(SIGMA(SYMBOL))) LUNATE(SIGMA(SYMBOL)))) DASIA+PSILI(.AND(OXIA PERISPOMENI VARIA))
   DIALYTIKA(TONOS AND(OXIA PERISPOMENI VARIA)) FIVE+FOUR(OBOLS(SIGN)) INSTRUMENTAL(NOTATION(
   SYMBOL-1~2 SYMBOL-11~14 SYMBOL-17~19 SYMBOL-23~27 SYMBOL-29~30 SYMBOL-32 SYMBOL-36~40 SYMBOL-4~5
   SYMBOL-42~43 SYMBOL-45 SYMBOL-47~54 SYMBOL-7~8)) KYATHOS+TRYBLION(BASE(SIGN)) LETTER(DIGAMMA
   KOPPA SAMPI STIGMA YOT ARCHAIC(KOPPA) SMALL(CAPITAL(GAMMA LAMDA OMEGA PI PSI RHO))) LOWER(
   NUMERAL(SIGN)) LUNATE(EPSILON+SIGMA(SYMBOL)) MUSICAL(LEIMMA) ONE(HALF(SIGN(.ALTERNATE(FORM)))
   QUARTER(SIGN)) QUESTION(MARK) REVERSED(LUNATE(EPSILON(SYMBOL))) RHO(SYMBOL WITH(STROKE(SYMBOL)))
   SMALL(DOTTED(LUNATE(SIGMA(SYMBOL))) LETTER(BETA CHI DELTA DIGAMMA GAMMA HETA KAPPA KOPPA LAMDA
   MU NU PHI PI PSI SAMPI SAN SHO SIGMA STIGMA TAU THETA XI ZETA ALPHA(.WITH(MACRON TONOS VRACHY
   YPOGEGRAMMENI DASIA+PSILI(.AND(YPOGEGRAMMENI OXIA+PERISPOMENI+VARIA(.AND(YPOGEGRAMMENI)))) OXIA+
   PERISPOMENI+VARIA(.AND(YPOGEGRAMMENI)))) ARCHAIC(KOPPA SAMPI) EPSILON+OMICRON(.WITH(OXIA TONOS
   VARIA DASIA+PSILI(.AND(OXIA VARIA)))) ETA+OMEGA(.WITH(TONOS YPOGEGRAMMENI DASIA+PSILI(.AND(
   YPOGEGRAMMENI OXIA+PERISPOMENI+VARIA(.AND(YPOGEGRAMMENI)))) OXIA+PERISPOMENI+VARIA(.AND(
   YPOGEGRAMMENI)))) FINAL(SIGMA) IOTA+UPSILON(.WITH(MACRON OXIA PERISPOMENI TONOS VARIA VRACHY
   DASIA+PSILI(.AND(OXIA PERISPOMENI VARIA)) DIALYTIKA(.AND(OXIA PERISPOMENI TONOS VARIA))))
   PAMPHYLIAN(DIGAMMA) RHO(.WITH(DASIA PSILI))) REVERSED(DOTTED(LUNATE(SIGMA(SYMBOL))) LUNATE(
   SIGMA(SYMBOL)))) SUBSCRIPT(SMALL(LETTER(BETA CHI GAMMA PHI RHO))) SYMBOL(TAU(RHO)) THREE(OBOLS+
   QUARTERS(SIGN)) TWO(OBOLS+THIRDS(SIGN)) UPSILON(WITH(ACUTE+DIAERESIS(AND(HOOK(SYMBOL))) HOOK(
   SYMBOL))) VOCAL(NOTATION(SYMBOL-1~9 SYMBOL-10~24 SYMBOL-50~54))) GREEN(APPLE BOOK HEART SALAD)
   GRINNING(CAT(FACE(WITH(SMILING(EYES)))) FACE(.WITH(ONE(LARGE(AND(ONE(SMALL(EYE))))) SMILING+
   STAR(EYES)))) GROUP(MARK SEPARATOR) GUIDE(DOG) GUJARATI(OM ABBREVIATION+RUPEE(SIGN) DIGIT(EIGHT
   FIVE FOUR NINE ONE SEVEN SIX THREE TWO ZERO) LETTER(A AA AI AU BA BHA CA CHA DA DDA DDHA DHA E
   GA GHA HA I II JA JHA KA KHA LA LLA MA NA NGA NNA NYA O PA PHA RA SA SHA SSA TA THA TTA TTHA U
   UU VA YA ZHA VOCALIC(L LL R RR)) SIGN(ANUSVARA AVAGRAHA CANDRABINDU MADDAH NUKTA SHADDA SUKUN
   VIRAMA VISARGA CIRCLE+THREE-DOT+TWO-CIRCLE(NUKTA(ABOVE))) VOWEL(CANDRA(E O) SIGN(AA AI AU E I II
   O U UU CANDRA(E O) VOCALIC(L LL R RR)))) GUNJALA(GONDI(OM VIRAMA DIGIT(EIGHT FIVE FOUR NINE ONE
   SEVEN SIX THREE TWO ZERO) LETTER(A AA AI AU BA BHA CA CHA DA DDA DDHA DHA EE GA GHA HA I II JA
   JHA KA KHA LA LLA MA NA NGA OO PA PHA RA SA TA THA TTA TTHA U UU VA YA) SIGN(ANUSVARA VISARGA)
   VOWEL(SIGN(AA AI AU EE I II OO U UU)))) GURMUKHI(ADDAK IRI TIPPI URA ABBREVIATION(SIGN) DIGIT(
   EIGHT FIVE FOUR NINE ONE SEVEN SIX THREE TWO ZERO) EK(ONKAR) LETTER(A AA AI AU BA BHA CA CHA DA
   DDA DDHA DHA EE FA GA GHA GHHA HA I II JA JHA KA KHA KHHA LA LLA MA NA NGA NNA NYA OO PA PHA RA
   RRA SA SHA TA THA TTA TTHA U UU VA YA ZA) SIGN(BINDI NUKTA UDAAT VIRAMA VISARGA YAKASH ADAK(
   BINDI)) VOWEL(SIGN(AA AI AU EE I II OO U UU))) HALFWIDTH(BLACK(SQUARE) DOWNWARDS+LEFTWARDS+
   RIGHTWARDS+UPWARDS(ARROW) FORMS(LIGHT(VERTICAL)) HANGUL(FILLER LETTER(A AE CHIEUCH CIEUC E EO EU
   HIEUH I IEUNG KHIEUKH KIYEOK KIYEOK-SIOS MIEUM NIEUN NIEUN-CIEUC NIEUN-HIEUH O OE PHIEUPH PIEUP
   PIEUP-SIOS RIEUL RIEUL-HIEUH RIEUL-KIYEOK RIEUL-MIEUM RIEUL-PHIEUPH RIEUL-PIEUP RIEUL-SIOS
   RIEUL-THIEUTH SIOS SSANGCIEUC SSANGKIYEOK SSANGPIEUP SSANGSIOS SSANGTIKEUT THIEUTH TIKEUT U WA
   WAE WE WEO WI YA YAE YE YEO YI YO YU)) IDEOGRAPHIC(COMMA FULL(STOP)) KATAKANA(LETTER(A E HA HE
   HI HO HU I KA KE KI KO KU MA ME MI MO MU N NA NE NI NO NU O RA RE RI RO RU SA SE SI SO SU TA TE
   TI TO TU U WA WO YA YO YU SMALL(A E I O TU U YA YO YU)) MIDDLE(DOT) SEMI-VOICED+VOICED(SOUND(
   MARK))) KATAKANA-HIRAGANA(PROLONGED(SOUND(MARK))) LEFT+RIGHT(CORNER(BRACKET)) WHITE(CIRCLE))
   HAMMER(.AND(PICK SICKLE WRENCH)) HAND(WITH(INDEX(AND(MIDDLE(FINGERS(CROSSED))) FINGER(AND(THUMB(
   CROSSED)))))) HANGUL(FILLER CHOSEONG(CEONGCHIEUMCHIEUCH CEONGCHIEUMCIEUC CEONGCHIEUMSIOS
   CEONGCHIEUMSSANGCIEUC CEONGCHIEUMSSANGSIOS CHIEUCH CHIEUCH-HIEUH CHIEUCH-KHIEUKH CHITUEUMCHIEUCH
   CHITUEUMCIEUC CHITUEUMSIOS CHITUEUMSSANGCIEUC CHITUEUMSSANGSIOS CIEUC CIEUC-IEUNG FILLER HIEUH
   HIEUH-SIOS IEUNG IEUNG-CHIEUCH IEUNG-CIEUC IEUNG-HIEUH IEUNG-KIYEOK IEUNG-MIEUM IEUNG-PANSIOS
   IEUNG-PHIEUPH IEUNG-PIEUP IEUNG-RIEUL IEUNG-SIOS IEUNG-THIEUTH IEUNG-TIKEUT KAPYEOUNMIEUM
   KAPYEOUNPHIEUPH KAPYEOUNPIEUP KAPYEOUNRIEUL KAPYEOUNSSANGPIEUP KHIEUKH KIYEOK KIYEOK-TIKEUT
   MIEUM MIEUM-KIYEOK MIEUM-PIEUP MIEUM-SIOS MIEUM-TIKEUT NIEUN NIEUN-CIEUC NIEUN-HIEUH
   NIEUN-KIYEOK NIEUN-PIEUP NIEUN-SIOS NIEUN-TIKEUT PANSIOS PHIEUPH PHIEUPH-HIEUH PHIEUPH-PIEUP
   PIEUP PIEUP-CHIEUCH PIEUP-CIEUC PIEUP-HIEUH PIEUP-KHIEUKH PIEUP-KIYEOK PIEUP-NIEUN PIEUP-PHIEUPH
   PIEUP-SIOS PIEUP-SIOS-CIEUC PIEUP-SIOS-KIYEOK PIEUP-SIOS-PIEUP PIEUP-SIOS-THIEUTH
   PIEUP-SIOS-TIKEUT PIEUP-SSANGSIOS PIEUP-THIEUTH PIEUP-TIKEUT RIEUL RIEUL-CIEUC RIEUL-HIEUH
   RIEUL-KAPYEOUNPIEUP RIEUL-KHIEUKH RIEUL-KIYEOK RIEUL-MIEUM RIEUL-NIEUN RIEUL-PIEUP RIEUL-SIOS
   RIEUL-SSANGKIYEOK RIEUL-SSANGPIEUP RIEUL-SSANGTIKEUT RIEUL-TIKEUT SIOS SIOS-CHIEUCH SIOS-CIEUC
   SIOS-HIEUH SIOS-IEUNG SIOS-KHIEUKH SIOS-KIYEOK SIOS-MIEUM SIOS-NIEUN SIOS-PHIEUPH SIOS-PIEUP
   SIOS-PIEUP-KIYEOK SIOS-RIEUL SIOS-SSANGSIOS SIOS-THIEUTH SIOS-TIKEUT SSANGCIEUC SSANGCIEUC-HIEUH
   SSANGHIEUH SSANGIEUNG SSANGKIYEOK SSANGNIEUN SSANGPIEUP SSANGRIEUL SSANGSIOS SSANGSIOS-PIEUP
   SSANGTHIEUTH SSANGTIKEUT SSANGYEORINHIEUH THIEUTH TIKEUT TIKEUT-CIEUC TIKEUT-KIYEOK TIKEUT-MIEUM
   TIKEUT-PIEUP TIKEUT-RIEUL TIKEUT-SIOS YEORINHIEUH YESIEUNG) DOUBLE+SINGLE(DOT(TONE(MARK)))
   JONGSEONG(CHIEUCH CIEUC CIEUC-PIEUP CIEUC-SSANGPIEUP HIEUH HIEUH-MIEUM HIEUH-NIEUN HIEUH-PIEUP
   HIEUH-RIEUL IEUNG IEUNG-KHIEUKH IEUNG-KIYEOK IEUNG-SSANGKIYEOK KAPYEOUNMIEUM KAPYEOUNPHIEUPH
   KAPYEOUNPIEUP KAPYEOUNRIEUL KHIEUKH KIYEOK KIYEOK-CHIEUCH KIYEOK-HIEUH KIYEOK-KHIEUKH
   KIYEOK-NIEUN KIYEOK-PIEUP KIYEOK-RIEUL KIYEOK-SIOS KIYEOK-SIOS-KIYEOK MIEUM MIEUM-CHIEUCH
   MIEUM-CIEUC MIEUM-HIEUH MIEUM-KIYEOK MIEUM-NIEUN MIEUM-PANSIOS MIEUM-PIEUP MIEUM-PIEUP-SIOS
   MIEUM-RIEUL MIEUM-SIOS MIEUM-SSANGNIEUN MIEUM-SSANGSIOS NIEUN NIEUN-CHIEUCH NIEUN-CIEUC
   NIEUN-HIEUH NIEUN-KIYEOK NIEUN-PANSIOS NIEUN-RIEUL NIEUN-SIOS NIEUN-THIEUTH NIEUN-TIKEUT PANSIOS
   PANSIOS-KAPYEOUNPIEUP PANSIOS-PIEUP PHIEUPH PHIEUPH-PIEUP PHIEUPH-SIOS PHIEUPH-THIEUTH PIEUP
   PIEUP-CHIEUCH PIEUP-CIEUC PIEUP-HIEUH PIEUP-MIEUM PIEUP-PHIEUPH PIEUP-RIEUL PIEUP-RIEUL-PHIEUPH
   PIEUP-SIOS PIEUP-SIOS-TIKEUT PIEUP-TIKEUT RIEUL RIEUL-HIEUH RIEUL-KAPYEOUNPIEUP RIEUL-KHIEUKH
   RIEUL-KIYEOK RIEUL-KIYEOK-HIEUH RIEUL-KIYEOK-SIOS RIEUL-MIEUM RIEUL-MIEUM-HIEUH
   RIEUL-MIEUM-KIYEOK RIEUL-MIEUM-SIOS RIEUL-NIEUN RIEUL-PANSIOS RIEUL-PHIEUPH RIEUL-PIEUP
   RIEUL-PIEUP-HIEUH RIEUL-PIEUP-PHIEUPH RIEUL-PIEUP-SIOS RIEUL-PIEUP-TIKEUT RIEUL-SIOS
   RIEUL-SSANGKIYEOK RIEUL-SSANGSIOS RIEUL-THIEUTH RIEUL-TIKEUT RIEUL-TIKEUT-HIEUH
   RIEUL-YEORINHIEUH RIEUL-YEORINHIEUH-HIEUH RIEUL-YESIEUNG SIOS SIOS-CHIEUCH SIOS-CIEUC SIOS-HIEUH
   SIOS-KAPYEOUNPIEUP SIOS-KIYEOK SIOS-MIEUM SIOS-PANSIOS SIOS-PIEUP SIOS-RIEUL SIOS-THIEUTH
   SIOS-TIKEUT SSANGCIEUC SSANGIEUNG SSANGKIYEOK SSANGMIEUM SSANGNIEUN SSANGPIEUP SSANGRIEUL
   SSANGRIEUL-KHIEUKH SSANGSIOS SSANGSIOS-KIYEOK SSANGSIOS-TIKEUT SSANGTIKEUT SSANGTIKEUT-PIEUP
   SSANGYESIEUNG THIEUTH TIKEUT TIKEUT-CHIEUCH TIKEUT-CIEUC TIKEUT-KIYEOK TIKEUT-PIEUP TIKEUT-RIEUL
   TIKEUT-SIOS TIKEUT-SIOS-KIYEOK TIKEUT-THIEUTH YEORINHIEUH YESIEUNG YESIEUNG-HIEUH
   YESIEUNG-KHIEUKH YESIEUNG-KIYEOK YESIEUNG-MIEUM YESIEUNG-PANSIOS YESIEUNG-SIOS
   YESIEUNG-SSANGKIYEOK) JUNGSEONG(A A-EU A-O A-U AE ARAEA ARAEA-A ARAEA-E ARAEA-EO ARAEA-I ARAEA-U
   E EO EO-EU EO-O EO-U EU EU-A EU-E EU-EO EU-EU EU-O EU-U FILLER I I-A I-ARAEA I-EU I-I I-O I-O-I
   I-U I-YA I-YA-O I-YAE I-YE I-YEO I-YO I-YU O O-E O-EO O-O O-O-I O-U O-YA O-YAE O-YE O-YEO OE
   SSANGARAEA U U-A U-AE U-EO-EU U-I-I U-U U-YE U-YEO WA WAE WE WEO WI YA YA-O YA-U YA-YO YAE YE
   YEO YEO-O YEO-U YEO-YA YI YI-U YO YO-A YO-AE YO-EO YO-I YO-O YO-YA YO-YAE YO-YEO YU YU-A YU-AE
   YU-E YU-EO YU-I YU-O YU-U YU-YE YU-YEO) LETTER(A AE ARAEA ARAEAE CHIEUCH CIEUC E EO EU HIEUH I
   IEUNG KAPYEOUNMIEUM KAPYEOUNPHIEUPH KAPYEOUNPIEUP KAPYEOUNSSANGPIEUP KHIEUKH KIYEOK KIYEOK-SIOS
   MIEUM MIEUM-PANSIOS MIEUM-PIEUP MIEUM-SIOS NIEUN NIEUN-CIEUC NIEUN-HIEUH NIEUN-PANSIOS
   NIEUN-SIOS NIEUN-TIKEUT O OE PANSIOS PHIEUPH PIEUP PIEUP-CIEUC PIEUP-KIYEOK PIEUP-SIOS
   PIEUP-SIOS-KIYEOK PIEUP-SIOS-TIKEUT PIEUP-THIEUTH PIEUP-TIKEUT RIEUL RIEUL-HIEUH RIEUL-KIYEOK
   RIEUL-KIYEOK-SIOS RIEUL-MIEUM RIEUL-PANSIOS RIEUL-PHIEUPH RIEUL-PIEUP RIEUL-PIEUP-SIOS
   RIEUL-SIOS RIEUL-THIEUTH RIEUL-TIKEUT RIEUL-YEORINHIEUH SIOS SIOS-CIEUC SIOS-KIYEOK SIOS-NIEUN
   SIOS-PIEUP SIOS-TIKEUT SSANGCIEUC SSANGHIEUH SSANGIEUNG SSANGKIYEOK SSANGNIEUN SSANGPIEUP
   SSANGSIOS SSANGTIKEUT THIEUTH TIKEUT U WA WAE WE WEO WI YA YAE YE YEO YEORINHIEUH YESIEUNG
   YESIEUNG-PANSIOS YESIEUNG-SIOS YI YO YO-I YO-YA YO-YAE YU YU-I YU-YE YU-YEO)) HANGZHOU(NUMERAL(
   EIGHT FIVE FOUR NINE ONE SEVEN SIX TEN THIRTY THREE TWENTY TWO)) HANIFI(ROHINGYA(DIGIT(EIGHT
   FIVE FOUR NINE ONE SEVEN SIX THREE TWO ZERO) LETTER(A BA CA DA DDA FA GA HA JA KA KHA LA MA NA
   NGA NYA PA RA RRA SA SHA TA TTA VA WA YA ZA KINNA(WA YA)) MARK(SAKIN NA(KHONNA)) SIGN(HARBAHAY
   TAHALA TANA TASSI) VOWEL(A E I O U))) HANUNOO(LETTER(A BA DA GA HA I KA LA MA NA NGA PA RA SA TA
   U WA YA) SIGN(PAMUDPOD) VOWEL(SIGN(I U))) HAPPY(PERSON(RAISING(ONE(HAND)))) HATCHING(CHICK)
   HATRAN(LETTER(ALEPH AYN BETH DALETH-RESH GIMEL HE HETH KAPH LAMEDH MEM NUN PE QOPH SADHE SAMEKH
   SHIN TAW TETH WAW YODH ZAYN) NUMBER(FIVE TEN TWENTY ONE(.HUNDRED))) HEADSTONE(.GRAVEYARD(
   SYMBOL)) HEAR-NO-EVIL+SEE-NO-EVIL+SPEAK-NO-EVIL(MONKEY) HEART(DECORATION HANDS WITH(ARROW RIBBON
   TIP(ON(THE(LEFT))))) HEAVY(ASTERISK SALTIRE SPARKLE AMPERSAND+INTERROBANG(ORNAMENT) ARROW(SHAFT(
   WIDTH(ONE(.HALF THIRD) TWO(THIRDS)))) BALLOT+MULTIPLICATION(X) BLACK(HEART CURVED(DOWNWARDS+
   UPWARDS(AND(RIGHTWARDS(ARROW))))) BLACK-FEATHERED(NORTH+SOUTH(EAST(ARROW)) RIGHTWARDS(ARROW))
   CHECK(MARK) CHEVRON(SNOWFLAKE) CIRCLE(.WITH(CIRCLE(INSIDE) STROKE(AND(TWO(DOTS(ABOVE))))))
   CIRCLED(SALTIRE) CONCAVE-POINTED(BLACK(RIGHTWARDS(ARROW))) DASHED(TRIANGLE-HEADED(RIGHTWARDS(
   ARROW))) DIVISION+DOLLAR+EQUALS+MINUS+PLUS(SIGN) DOUBLE+SINGLE(COMMA(QUOTATION(MARK(ORNAMENT)))
   TURNED(COMMA(QUOTATION(MARK(ORNAMENT))))) DOWNWARDS+LEFTWARDS+UPWARDS(ARROW(WITH(EQUILATERAL(
   ARROWHEAD) LARGE(EQUILATERAL(ARROWHEAD))))) EIGHT(POINTED(BLACK+PINWHEEL(STAR) RECTILINEAR(
   BLACK(STAR))) SPOKED(ASTERISK) TEARDROP-SPOKED(PROPELLER(ASTERISK))) EXCLAMATION(MARK(ORNAMENT
   SYMBOL)) FIVE+SIX(POINTED(BLACK(STAR)) SPOKED(ASTERISK)) FOUR(BALLOON-SPOKED(ASTERISK)) GREEK+
   LATIN(CROSS) HEART(EXCLAMATION(MARK(ORNAMENT))) HORIZONTAL(FILL) LARGE(CIRCLE) LEFT-POINTING+
   RIGHT-POINTING(ANGLE(BRACKET(ORNAMENT) QUOTATION(MARK(ORNAMENT)))) LIGATURE(OPEN(ET(ORNAMENT)))
   LOW(DOUBLE+SINGLE(COMMA(QUOTATION(MARK(ORNAMENT))))) LOWER+UPPER(RIGHT-SHADOWED(WHITE(
   RIGHTWARDS(ARROW)))) NORTH+SOUTH(EAST(ARROW POINTING(BUD VINE(LEAF))) WEST(POINTING(BUD VINE(
   LEAF)))) OPEN(CENTRE(CROSS)) OUTLINED(BLACK(STAR)) OVAL(WITH(OVAL(INSIDE))) RIGHTWARDS(ARROW(
   .WITH(EQUILATERAL(ARROWHEAD) LARGE(EQUILATERAL(ARROWHEAD))))) ROUND-TIPPED+TEARDROP-SHANKED+
   TRIANGLE-HEADED+WEDGE-TAILED+WIDE-HEADED(RIGHTWARDS(ARROW)) SANS-SERIF(INTERROBANG(ORNAMENT))
   SCRIPT(LIGATURE(ET(ORNAMENT))) TEARDROP-SPOKED(ASTERISK PINWHEEL(ASTERISK)) TWELVE(POINTED(
   BLACK+PINWHEEL(STAR))) VERTICAL(BAR) WHITE(CIRCLE SQUARE DOWN-POINTING(TRIANGLE))) HEBREW(
   ACCENT(DARGA DEHI ETNAHTA GERSHAYIM ILUY MAHAPAKH MUNAH OLE PASHTA PAZER QADMA REVIA SEGOL
   SHALSHELET TEVIR TIPEHA YETIV ZARQA ZINOR ATNAH(HAFUKH) GERESH(.MUQDAM) MERKHA(.KEFULA) QARNEY(
   PARA) TELISHA(GEDOLA QETANA) YERAH(BEN(YOMO)) ZAQEF(GADOL QATAN)) LETTER(AYIN HET ALEF(.WITH(
   MAPIQ PATAH QAMATS)) ALTERNATIVE(AYIN PLUS(SIGN)) BET+KAF+PE(.WITH(DAGESH RAFE)) DALET+GIMEL+
   LAMED+MEM+NUN+QOF+RESH+SAMEKH+TAV+TET+TSADI+ZAYIN(.WITH(DAGESH)) FINAL(MEM NUN TSADI KAF+PE(
   .WITH(DAGESH))) HE(.WITH(MAPIQ)) SHIN(.WITH(DAGESH(.AND(SHIN+SIN(DOT))) SHIN+SIN(DOT))) VAV(
   .WITH(DAGESH HOLAM)) WIDE(ALEF DALET HE KAF LAMED RESH TAV FINAL(MEM)) YOD(.WITH(DAGESH HIRIQ)))
   LIGATURE(ALEF(LAMED) YIDDISH(DOUBLE(VAV YOD) VAV(YOD) YOD(YOD(PATAH)))) MARK(LOWER+UPPER(DOT)
   MASORA(CIRCLE)) POINT(HIRIQ METEG PATAH QUBUTS RAFE SEGOL SHEVA TSERE DAGESH(OR(MAPIQ)) HATAF(
   PATAH QAMATS SEGOL) HOLAM(.HASER(FOR(VAV))) JUDEO-SPANISH(VARIKA) QAMATS(.QATAN) SHIN+SIN(DOT))
   PUNCTUATION(GERESH GERSHAYIM MAQAF PASEQ NUN(HAFUKHA) SOF(PASUQ)) YOD(TRIANGLE)) HELLSCHREIBER(
   PAUSE(SYMBOL)) HELMET(WITH(WHITE(CROSS))) HENTAIGANA(LETTER(A-1~3 A-WO E-1~6 HA-1~9 HA-10~11
   HE-1~7 HI-1~7 HO-1~8 HU-1~3 I-1~4 KA-1~9 KA-10~11 KA-KE KE-1~6 KI-1~8 KO-1~3 KO-KI KU-1~7 MA-1~7
   ME-1~2 ME-MA MI-1~7 MO-1~6 MU-1~4 N-MU-MO-1~2 NA-1~9 NE-1~6 NE-KO NI-1~7 NI-TE NO-1~5 NU-1~3
   O-1~3 RA-1~4 RE-1~4 RI-1~7 RO-1~6 RU-1~6 SA-1~8 SE-1~5 SI-1~6 SO-1~7 SU-1~8 TA-1~4 TE-1~9 TI-1~7
   TO-1~6 TO-RA TU-1~4 TU-TO U-1~5 WA-1~5 WE-1~4 WI-1~5 WO-1~7 YA-1~5 YA-YO YO-1~6 YU-1~4))
   HERMITIAN(CONJUGATE(MATRIX)) HEXAGRAM(FOR(ABUNDANCE APPROACH BREAKTHROUGH CONFLICT CONTEMPLATION
   DECREASE DELIVERANCE DEVELOPMENT DISPERSION DURATION ENTHUSIASM FELLOWSHIP FOLLOWING GRACE
   INCREASE INFLUENCE INNOCENCE LIMITATION MODESTY OBSTRUCTION OPPOSITION OPPRESSION PEACE PROGRESS
   RETREAT RETURN REVOLUTION STANDSTILL TREADING WAITING AFTER+BEFORE(COMPLETION) BITING(THROUGH)
   COMING(TO(MEET)) DARKENING(OF(THE(LIGHT))) DIFFICULTY(AT(THE(BEGINNING))) GATHERING+HOLDING(
   TOGETHER) GREAT(POSSESSION POWER PREPONDERANCE TAMING) INNER(TRUTH) MOUTH(CORNERS) PUSHING(
   UPWARD) SMALL(PREPONDERANCE TAMING) SPLITTING(APART) THE(ARMY CAULDRON FAMILY WANDERER WELL
   ABYSMAL(WATER) AROUSING(THUNDER) CLINGING(FIRE) CREATIVE(HEAVEN) GENTLE(WIND) JOYOUS(LAKE)
   KEEPING(STILL(MOUNTAIN)) MARRYING(MAIDEN) RECEPTIVE(EARTH)) WORK(ON(THE(DECAYED))) YOUTHFUL(
   FOLLY))) HIGH(BRIGHTNESS(SYMBOL) OCTET(PRESET) VOLTAGE(SIGN)) HIGH-SPEED(TRAIN(.WITH(BULLET(
   NOSE)))) HIKING(BOOT) HINDU(TEMPLE) HIRAGANA(DIGRAPH(YORI) ITERATION(MARK) LETTER(A BA BE BI BO
   BU DA DE DI DO DU E GA GE GI GO GU HA HE HI HO HU I KA KE KI KO KU MA ME MI MO MU N NA NE NI NO
   NU O PA PE PI PO PU RA RE RI RO RU SA SE SI SO SU TA TE TI TO TU U VU WA WE WI WO YA YO YU ZA ZE
   ZI ZO ZU ARCHAIC(WU YE) SMALL(A E I KA KE O TU U WA WE WI WO YA YO YU)) VOICED(ITERATION(MARK)))
   HISTORIC(SITE) HOLLOW+SOLID(QUILT(SQUARE(ORNAMENT(.IN(BLACK(SQUARE)))))) HONEY(POT) HORIZONTAL(
   BAR ELLIPSIS BLACK(HEXAGON OCTAGON) LINE(EXTENSION) MALE(WITH(STROKE(SIGN))) ONE(EIGHTH(
   BLOCK-1358 BLOCK-2~7)) SCAN(LINE-1 LINE-3 LINE-7 LINE-9) TAB(KEY) TABULATION(.SET WITH(
   JUSTIFICATION)) TRAFFIC(LIGHT)) HORSE(.FACE RACING) HOT(BEVERAGE DOG PEPPER SPRINGS) HOURGLASS(
   .WITH(FLOWING(SAND))) HOUSE(.BUILDING BUILDINGS WITH(GARDEN)) HUNDRED(POINTS(SYMBOL)) HYPHEN(
   .BULLET WITH(DIAERESIS)) HYPHENATION(POINT) I(LOVE(YOU(HAND(SIGN)))) ICE(CREAM CUBE SKATE
   HOCKEY(STICK(AND(PUCK)))) IDENTICAL(TO(.AND(SLANTED(PARALLEL))) WITH(DOT(ABOVE))) IDEOGRAPHIC(
   COMMA SPACE ANNOTATION(BOTTOM+EARTH+FIRST+FOUR+FOURTH+HEAVEN+LINKING+MAN+MIDDLE+ONE+REVERSE+
   SECOND+THIRD+THREE+TOP+TWO(MARK)) CLOSING+ITERATION(MARK) DEPARTING+ENTERING+LEVEL+RISING(TONE(
   MARK)) DESCRIPTION(CHARACTER(OVERLAID ABOVE(TO(BELOW MIDDLE(AND(BELOW)))) FULL(SURROUND) LEFT(
   TO(RIGHT MIDDLE(AND(RIGHT)))) SURROUND(FROM(ABOVE BELOW LEFT LOWER(LEFT) UPPER(LEFT RIGHT)))))
   FULL(STOP) HALF(FILL(SPACE)) NUMBER(ZERO) TALLY(MARK(FIVE FOUR ONE THREE TWO)) TELEGRAPH(LINE(
   FEED(SEPARATOR(SYMBOL))) SYMBOL(FOR(APRIL AUGUST DECEMBER FEBRUARY JANUARY JULY JUNE MARCH MAY
   NOVEMBER OCTOBER SEPTEMBER DAY(EIGHT EIGHTEEN ELEVEN FIFTEEN FIVE FOUR FOURTEEN NINE NINETEEN
   ONE SEVEN SEVENTEEN SIX SIXTEEN TEN THIRTEEN THIRTY THIRTY-ONE THREE TWELVE TWENTY TWENTY-EIGHT
   TWENTY-FIVE TWENTY-FOUR TWENTY-NINE TWENTY-ONE TWENTY-SEVEN TWENTY-SIX TWENTY-THREE TWENTY-TWO
   TWO) HOUR(EIGHT EIGHTEEN ELEVEN FIFTEEN FIVE FOUR FOURTEEN NINE NINETEEN ONE SEVEN SEVENTEEN SIX
   SIXTEEN TEN THIRTEEN THREE TWELVE TWENTY TWENTY-FOUR TWENTY-ONE TWENTY-THREE TWENTY-TWO TWO
   ZERO)))) VARIATION(INDICATOR)) IMAGE(OF(.OR(APPROXIMATELY(EQUAL(TO))))) IMPERIAL(ARAMAIC(LETTER(
   ALEPH AYIN BETH DALETH GIMEL HE HETH KAPH LAMEDH MEM NUN PE QOPH RESH SADHE SAMEKH SHIN TAW TETH
   WAW YODH ZAYIN) NUMBER(THREE TWENTY TWO ONE(.HUNDRED THOUSAND) TEN(.THOUSAND)) SECTION(SIGN)))
   INBOX+OUTBOX(TRAY) INCOMING+STAMPED(ENVELOPE) INCOMPLETE(INFINITY) INCREASES(AS) INDEX(
   .POINTING(AT(THE(VIEWER)))) INDIAN(RUPEE(SIGN)) INDIC(SIYAQ(PLACEHOLDER ALTERNATE(LAKH(MARK))
   FRACTION(ONE(HALF QUARTER) THREE(QUARTERS)) LAKH+RUPEE(MARK) NUMBER(KAROR KARORAN LAKH LAKHAN
   ALTERNATE(ONE TWO TEN(THOUSAND)) EIGHT+FIVE+FOUR+NINE+ONE+SEVEN+SIX+THREE+TWO(.HUNDRED THOUSAND)
   EIGHTY+FIFTY+FORTY+NINETY+SEVENTY+SIXTY+TEN+THIRTY+TWENTY(.THOUSAND) PREFIXED(EIGHT FIVE FOUR
   NINE ONE SEVEN SIX THREE TWO)))) INFINITY(.NEGATED(WITH(VERTICAL(BAR)))) INFORMATION(SOURCE
   DESK(PERSON) SEPARATOR(FOUR ONE THREE TWO)) INPUT(SYMBOL(FOR(NUMBERS SYMBOLS LATIN(LETTERS
   CAPITAL+SMALL(LETTERS))))) INSCRIPTIONAL(PAHLAVI(LETTER(ALEPH BETH DALETH GIMEL HE HETH KAPH
   LAMEDH MEM-QOPH NUN PE SADHE SAMEKH SHIN TAW TETH WAW-AYIN-RESH YODH ZAYIN) NUMBER(FOUR TEN
   THREE TWENTY TWO ONE(.HUNDRED THOUSAND))) PARTHIAN(LETTER(ALEPH AYIN BETH DALETH GIMEL HE HETH
   KAPH LAMEDH MEM NUN PE QOPH RESH SADHE SAMEKH SHIN TAW TETH WAW YODH ZAYIN) NUMBER(FOUR TEN
   THREE TWENTY TWO ONE(.HUNDRED THOUSAND)))) INTEGRAL(.EXTENSION AROUND(A(POINT(OPERATOR)))
   AVERAGE(WITH(SLASH)) WITH(INTERSECTION OVERBAR UNDERBAR UNION DOUBLE(STROKE) LEFTWARDS(ARROW(
   WITH(HOOK))) TIMES(SIGN))) INTERIOR+SHUFFLE+SMASH+WREATH(PRODUCT) INTERLINEAR(ANNOTATION(ANCHOR
   SEPARATOR TERMINATOR)) INTERLOCKED(FEMALE(AND(MALE(SIGN)))) INTERSECTION(.ABOVE(UNION BAR(ABOVE(
   UNION))) BESIDE(AND(JOINED(WITH(INTERSECTION)))) WITH(DOT OVERBAR LOGICAL(AND))) INVERSE(BULLET
   CHECK(MARK) CHECKER(BOARD(FILL)) DOWNWARDS(ARROW(WITH(TIP(LEFTWARDS)))) MEDIUM(SHADE) WHITE(
   CIRCLE)) INVERTED(INTERROBANG PENTAGRAM UNDERTIE EXCLAMATION+QUESTION(MARK) LAZY(S) LOW(KAVYKA(
   .WITH(KAVYKA(ABOVE)))) OHM(SIGN)) INVISIBLE(PLUS SEPARATOR TIMES) IZAKAYA(LANTERN) JAPANESE(
   CASTLE DOLLS GOBLIN OGRE BANK(SYMBOL) INDUSTRIAL(STANDARD(SYMBOL)) POST(OFFICE) SYMBOL(FOR(
   BEGINNER))) JAVANESE(PANGKON PANGRANGKEP CONSONANT(SIGN(CAKRA KERET PENGKAL)) DIGIT(EIGHT FIVE
   FOUR NINE ONE SEVEN SIX THREE TWO ZERO) LEFT+RIGHT(RERENGGAN) LETTER(A AI E HA II LA MA O U WA
   YA BA+CA+GA+NA+NYA+TA(.MURDA) DA+DDA+JA+TTA(.MAHAPRANA) I(.KAWI) KA(.MURDA SASAK) NGA(.LELET(
   .RASWADI)) PA(.CEREK MURDA) RA(.AGUNG) SA(.MAHAPRANA MURDA)) PADA(ANDAP ISEN-ISEN LINGSA LUHUR
   LUNGSI MADYA PANGKAT PISELEH WINDU ADEG(.ADEG) TIRTA(TUMETES)) SIGN(LAYAR PANYANGGA WIGNYAN
   CECAK(.TELU)) TURNED(PADA(PISELEH)) VOWEL(SIGN(PEPET TALING TARUNG TOLONG DIRGA(MURE) SUKU(
   .MENDUT) WULU(.MELIK)))) JIGSAW(PUZZLE(PIECE)) KAITHI(DANDA ABBREVIATION+ENUMERATION(SIGN)
   DOUBLE(DANDA SECTION(MARK)) LETTER(A AA AI AU BA BHA CA CHA DA DDA DDDHA DDHA DHA E GA GHA HA I
   II JA JHA KA KHA LA MA NA NGA NNA NYA O PA PHA RA RHA SA SHA SSA TA THA TTA TTHA U UU VA YA)
   NUMBER(SIGN(.ABOVE)) SECTION(MARK) SIGN(ANUSVARA CANDRABINDU NUKTA VIRAMA VISARGA) VOWEL(SIGN(AA
   AI AU E I II O U UU VOCALIC(R)))) KANGXI(RADICAL(AGAIN AND ARRIVE ARROW AXE BADGER BAMBOO BEAN
   BIG BIRD BITTER BLACK BLOOD BLUE BOAT BODY BONE BOW BRANCH BRISTLE BRUSH CART CAULDRON CAVE
   CHILD CITY CLAN CLAW CLIFF CLOTHES COLOR COMPARE CORPSE COVER COW DEATH DEER DIPPER DISH
   DISTINGUISH DIVINATION DOG DOOR DOT DRAGON DRUM DRY EAR EARTH EAT EIGHT EMBROIDERY ENCLOSURE
   ENTER EVEN EVENING EYE FACE FANG FATHER FEATHER FIELD FIGHT FIRE FISH FLUTE FLY FOOT FRAGRANT
   FROG FUR GATE GHOST GOLD GRAIN GRASS HAIR HALBERD HAND HEAD HEART HEMP HOOK HORN HORSE ICE INCH
   INSECT JADE JAR KNIFE LACK LAME LEAF LEATHER LEEK LEGS LID LIFE LINE MAN MEAT MELON MILLET
   MINISTER MOON MORNING MORTAR MOUND MOUNTAIN MOUTH NET NOSE NOT OLD ONE ONESELF OPPOSE PIG PLOW
   POWER PRIVATE PROFOUND RAIN RAP RAT RED RICE RIVER ROOF RUN SALT SAY SCHOLAR SCRIPT SEAL SECOND
   SEE SELF SHEEP SHELL SHOOT SICKNESS SILK SKIN SLASH SLAVE SLICE SMALL SNOUT SOUND SPEAR SPEECH
   SPIRIT SPOON SPROUT SQUARE STAND STEAM STEP STONE STOP STOPPING SUN SWEET TABLE TALL TEN TIGER
   TILE TONGUE TOOTH TRACK TREE TRIPOD TURBAN TURTLE USE VALLEY VILLAGE WATER WEAPON WEST WHEAT
   WHITE WIND WINE WOMAN WORK WRAP WRONG YELLOW BOLT(OF(CLOTH)) DO(NOT) DOTTED(CLIFF TENT) DOUBLE(
   X) DOWN+OPEN(BOX) GO(.SLOWLY) HALF(TREE(TRUNK)) HIDING(ENCLOSURE) LONG(.STRIDE) RIGHT(OPEN(BOX))
   SACRIFICIAL(WINE) SHORT(THREAD TAILED(BIRD)) TANNED(LEATHER) TWO(.HANDS) WALK(.ENCLOSURE)))
   KANNADA(AI(LENGTH(MARK)) DIGIT(EIGHT FIVE FOUR NINE ONE SEVEN SIX THREE TWO ZERO) LENGTH(MARK)
   LETTER(A AA AI AU BA BHA CA CHA DA DDA DDHA DHA E EE FA GA GHA HA I II JA JHA KA KHA LA LLA LLLA
   MA NA NGA NNA NYA O OO PA PHA RA RRA SA SHA SSA TA THA TTA TTHA U UU VA YA NAKAARA(POLLU)
   VOCALIC(L LL R RR)) SIGN(ANUSVARA AVAGRAHA CANDRABINDU JIHVAMULIYA NUKTA SIDDHAM UPADHMANIYA
   VIRAMA VISARGA SPACING(CANDRABINDU)) VOWEL(SIGN(AA AI AU E EE I II O OO U UU VOCALIC(L LL R
   RR)))) KATAKANA(DIGRAPH(KOTO) ITERATION(MARK) LETTER(A BA BE BI BO BU DA DE DI DO DU E GA GE GI
   GO GU HA HE HI HO HU I KA KE KI KO KU MA ME MI MO MU N NA NE NI NO NU O PA PE PI PO PU RA RE RI
   RO RU SA SE SI SO SU TA TE TI TO TU U VA VE VI VO VU WA WE WI WO YA YO YU ZA ZE ZI ZO ZU
   ARCHAIC(E WU YE YI) MINNAN(TONE-2~5 TONE-7~8 NASALIZED(TONE-1~5 TONE-7~8)) SMALL(A E HA HE HI HO
   HU I KA KE KU MU N NU O RA RE RI RO RU SI SU TO TU U WA WE WI WO YA YO YU)) MIDDLE(DOT) VOICED(
   ITERATION(MARK))) KATAKANA-HIRAGANA(DOUBLE(HYPHEN) PROLONGED+SEMI-VOICED+VOICED(SOUND(MARK)))
   KAYAH(LI(DIGIT(EIGHT FIVE FOUR NINE ONE SEVEN SIX THREE TWO ZERO) LETTER(A BA CA DA GA HA HTA I
   KA KHA LA MA NA NGA NYA OE OO PA PHA RA SA SHA TA THA VA WA YA ZA) SIGN(CWI SHYA) TONE(PLOPHU
   CALYA(.PLOPHU)) VOWEL(E EE O U UE))) KEYBOARD(.AND(MOUSE)) KEYCAP(TEN) KHAROSHTHI(VIRAMA DIGIT(
   FOUR ONE THREE TWO) FRACTION(ONE(HALF)) LETTER(A BA BHA CA CHA DA DDA DDHA DHA GA GHA HA JA KA
   KHA KKA LA MA NA NNA NYA PA PHA RA SA SHA SSA TA THA TTA TTHA TTTA TTTHA VA VHA YA ZA) NUMBER(
   TEN TWENTY ONE(HUNDRED THOUSAND)) PUNCTUATION(CIRCLE DANDA DOT LINES LOTUS MANGALAM CRESCENT(
   BAR) DOUBLE(DANDA) SMALL(CIRCLE)) SIGN(ANUSVARA CAUDA VISARGA BAR(ABOVE) DOT(BELOW) DOUBLE(RING(
   BELOW))) VOWEL(LENGTH(MARK) SIGN(E I O U VOCALIC(R)))) KHITAN(SMALL(SCRIPT(FILLER))) KHMER(
   CURRENCY(SYMBOL(RIEL)) DIGIT(EIGHT FIVE FOUR NINE ONE SEVEN SIX THREE TWO ZERO) INDEPENDENT(
   VOWEL(LY LYY QAA QAI QAQ QAU QE QI QII QU QUK QUU QUUV RY RYY QOO(TYPE(ONE TWO)))) LETTER(BA CA
   CHA CHO CO DA DO HA KA KHA KHO KO LA LO MO NGO NNO NO NYO PHA PHO PO QA RO SA SHA SSO TA THA THO
   TO TTHA TTHO VO YO) SIGN(AHSDA ATTHACAN AVAKRAHASANYA BANTOC BARIYOOSAN BATHAMASAT BEYYAL COENG
   KAKABAT KHAN KOOMUUT MUUSIKATOAN NIKAHIT REAHMUK ROBAT TOANDAKHIAT TRIISAP VIRIAM YUUKALEAPINTU
   CAMNUC(PII(KUUH)) LEK(TOO) PHNAEK(MUAN) SAMYOK(SANNYA)) SYMBOL(PATHAMASAT TUTEYASAT BEI+BUON+
   DAP+DAP-BEI+DAP-BUON+DAP-MUOY+DAP-PII+DAP-PRAM+MUOY+PII+PRAM+PRAM-BEI+PRAM-BUON+PRAM-MUOY+
   PRAM-PII(KOET ROC) LEK(ATTAK(BEI BUON MUOY PII PRAM PRAM-BEI PRAM-BUON PRAM-MUOY PRAM-PII SON)))
   VOWEL(INHERENT(AA AQ) SIGN(AA AE AI AU E I IE II OE OO U UA UU Y YA YY))) KHOJKI(DANDA
   ABBREVIATION(SIGN) DOUBLE(DANDA SECTION(MARK)) LETTER(A AA AI AU BA BBA BHA CA CHA DA DDA DDDA
   DDHA DHA E GA GGA GHA HA I JA JJA KA KHA LA LLA MA NA NGA NNA NYA O PA PHA RA SA TA THA TTA TTHA
   U VA YA) SECTION(MARK) SIGN(ANUSVARA NUKTA SHADDA SUKUN VIRAMA) VOWEL(SIGN(AA AI AU E I II O U))
   WORD(SEPARATOR)) KHUDAWADI(DIGIT(EIGHT FIVE FOUR NINE ONE SEVEN SIX THREE TWO ZERO) LETTER(A AA
   AI AU BA BBA BHA CA CHA DA DDA DDDA DDHA DHA E GA GGA GHA HA I II JA JHA JJA KA KHA LA MA NA NGA
   NNA NYA O PA PHA RA RRA SA SHA TA THA TTA TTHA U UU VA YA) SIGN(ANUSVARA NUKTA VIRAMA) VOWEL(
   SIGN(AA AI AU E I II O U UU))) KISS(.MARK) KISSING(CAT(FACE(WITH(CLOSED(EYES)))) FACE(.WITH(
   CLOSED+SMILING(EYES)))) KOREAN(STANDARD(SYMBOL)) L(B(BAR(SYMBOL))) LAB(COAT) LACROSSE(STICK(AND(
   BALL))) LADY(BEETLE) LANGUAGE(TAG) LAO(ELLIPSIS NIGGAHITA CANCELLATION(MARK) DIGIT(EIGHT FIVE
   FOUR NINE ONE SEVEN SIX THREE TWO ZERO) HO(MO NO) KO(LA) LETTER(BO CO DO KO MO NGO NO NYO O PO
   RO TO WO YO FO(FAY FON SUNG TAM) HO+KHO+PHO+SO+THO(SUNG TAM) KHMU(GO NYO) LO(.LING LOOT) PALI(
   BHA CHA DDA DDHA DHA GHA JHA LLA NNA NYA TTA TTHA) SANSKRIT(SHA SSA)) SEMIVOWEL(SIGN(LO NYO))
   SIGN(PALI(VIRAMA)) TONE(MAI(CATAWA EK THO TI)) VOWEL(SIGN(A AA AI AM AY E EI I II O U UU Y YY
   MAI(KAN KON)))) LARGE(CIRCLE BLUE+ORANGE(CIRCLE DIAMOND SQUARE) BROWN+GREEN+PURPLE+RED+YELLOW(
   CIRCLE SQUARE) DOWN+UP(TACK) LEFT(TRIANGLE(OPERATOR)) ONE(DOT(OVER(TWO(DOTS(PUNCTUATION))))
   RING(OVER(TWO(RINGS(PUNCTUATION))))) TRIPLE(VERTICAL(BAR(OPERATOR))) TWO(DOTS(OVER(ONE(DOT(
   PUNCTUATION)))) RINGS(OVER(ONE(RING(PUNCTUATION)))))) LARGER+SMALLER(THAN(.OR(EQUAL(TO)))) LAST(
   QUARTER(MOON(.SYMBOL WITH(FACE)))) LATIN(CROSS CAPITAL(LETTER(AA ALPHA AO AU AY BETA CHI CON ENG
   ESH ET ETH GAMMA GHA HENG HWAIR IOTA IS LJ NJ OI OMEGA OO OU SALTILLO SCHWA TRESILLO TZ UPSILON
   VEND VY WYNN YOGH A(.WITH(ACUTE CARON GRAVE MACRON OGONEK STROKE TILDE BREVE+CIRCUMFLEX(.AND(
   ACUTE GRAVE TILDE DOT(BELOW) HOOK(ABOVE))) DIAERESIS(.AND(MACRON)) DOT(BELOW ABOVE(.AND(
   MACRON))) DOUBLE(GRAVE) HOOK(ABOVE) INVERTED(BREVE) RING(BELOW ABOVE(.AND(ACUTE))))) AE(.WITH(
   ACUTE MACRON)) AFRICAN(D) ANGLICANA(W) AV(.WITH(HORIZONTAL(BAR))) B(.WITH(FLOURISH HOOK STROKE
   TOPBAR DOT(ABOVE BELOW) LINE(BELOW))) BROKEN(L) C(.WITH(ACUTE BAR CARON CIRCUMFLEX HOOK STROKE
   CEDILLA(.AND(ACUTE)) DOT(ABOVE) PALATAL(HOOK))) CLOSED(INSULAR(G)) CUATRILLO(.WITH(COMMA)) D(
   .WITH(CARON CEDILLA HOOK STROKE TOPBAR CIRCUMFLEX+LINE(BELOW) DOT(ABOVE BELOW) SHORT(STROKE(
   OVERLAY)) SMALL(LETTER(Z(.WITH(CARON)))))) DZ(.WITH(CARON)) E(.WITH(ACUTE BREVE CARON DIAERESIS
   GRAVE OGONEK STROKE CEDILLA(.AND(BREVE)) CIRCUMFLEX(.BELOW AND(ACUTE GRAVE TILDE DOT(BELOW)
   HOOK(ABOVE))) DOT(ABOVE BELOW) DOUBLE(GRAVE) HOOK(ABOVE) INVERTED(BREVE) MACRON(.AND(ACUTE
   GRAVE)) TILDE(.BELOW))) EGYPTOLOGICAL(AIN ALEF) EZH(.REVERSED WITH(CARON)) F(.WITH(HOOK STROKE
   DOT(ABOVE))) G(.WITH(ACUTE BREVE CARON CEDILLA CIRCUMFLEX HOOK MACRON STROKE DOT(ABOVE) OBLIQUE(
   STROKE))) GLOTTAL(A I STOP U) H(.WITH(CARON CEDILLA CIRCUMFLEX DESCENDER DIAERESIS HOOK STROKE
   BREVE(BELOW) DOT(ABOVE BELOW))) HALF(H) I(.WITH(ACUTE BREVE CARON CIRCUMFLEX GRAVE MACRON OGONEK
   STROKE DIAERESIS(.AND(ACUTE)) DOT(ABOVE BELOW) DOUBLE(GRAVE) HOOK(ABOVE) INVERTED(BREVE) TILDE(
   .BELOW))) INSULAR(D F G R S T) J(.WITH(CIRCUMFLEX CROSSED-TAIL STROKE)) K(.WITH(ACUTE CARON
   CEDILLA DESCENDER HOOK DIAGONAL+OBLIQUE(STROKE) DOT+LINE(BELOW) STROKE(.AND(DIAGONAL(STROKE)))))
   L(.WITH(ACUTE BAR BELT CARON CEDILLA STROKE CIRCUMFLEX+LINE(BELOW) DOT(BELOW(.AND(MACRON)))
   DOUBLE(BAR) HIGH(STROKE) MIDDLE(DOT TILDE) SMALL(LETTER(J)))) M(.WITH(ACUTE HOOK DOT(ABOVE
   BELOW))) MIDDLE(SCOTS(S)) MIDDLE-WELSH(LL V) N(.WITH(ACUTE CARON CEDILLA DESCENDER GRAVE TILDE
   CIRCUMFLEX+LINE(BELOW) DOT(ABOVE BELOW) LEFT(HOOK) LONG(RIGHT(LEG)) OBLIQUE(STROKE) SMALL(
   LETTER(J)))) O(.WITH(ACUTE BREVE CARON GRAVE LOOP CIRCUMFLEX+HORN(.AND(ACUTE GRAVE TILDE DOT(
   BELOW) HOOK(ABOVE))) DIAERESIS+OGONEK(.AND(MACRON)) DOT(BELOW ABOVE(.AND(MACRON))) DOUBLE(ACUTE
   GRAVE) HOOK(ABOVE) INVERTED(BREVE) LONG(STROKE(OVERLAY)) MACRON(.AND(ACUTE GRAVE)) MIDDLE(TILDE)
   STROKE(.AND(ACUTE)) TILDE(.AND(ACUTE DIAERESIS MACRON)))) OLD(POLISH(O)) OPEN(E O) P(.WITH(ACUTE
   FLOURISH HOOK DOT(ABOVE) SQUIRREL(TAIL) STROKE(.THROUGH(DESCENDER)))) Q(.WITH(DIAGONAL(STROKE)
   STROKE(THROUGH(DESCENDER)))) R(.ROTUNDA WITH(ACUTE CARON CEDILLA STROKE TAIL DOT(ABOVE BELOW(
   .AND(MACRON))) DOUBLE(GRAVE) INVERTED(BREVE) LINE(BELOW) OBLIQUE(STROKE))) REVERSED(E C(WITH(
   DOT)) HALF(H) OPEN(E)) RUM(ROTUNDA) S(.WITH(CEDILLA CIRCUMFLEX HOOK ACUTE+CARON(.AND(DOT(
   ABOVE))) COMMA(BELOW) DOT(ABOVE BELOW(.AND(DOT(ABOVE)))) OBLIQUE(STROKE) SHORT(STROKE(OVERLAY))
   SWASH(TAIL))) SCRIPT(G) SHARP+SIGMOID(S) SMALL(CAPITAL(I) Q(WITH(HOOK(TAIL)))) T(.WITH(CARON
   CEDILLA HOOK STROKE CIRCUMFLEX+COMMA+LINE(BELOW) DIAGONAL(STROKE) DOT(ABOVE BELOW) RETROFLEX(
   HOOK))) THORN(.WITH(STROKE(.THROUGH(DESCENDER)))) TONE(FIVE SIX TWO) TURNED(A ALPHA H K L M T V
   INSULAR(G)) U(.BAR WITH(ACUTE BREVE CARON GRAVE OGONEK STROKE CIRCUMFLEX(.BELOW) DIAERESIS(
   .BELOW AND(ACUTE CARON GRAVE MACRON)) DOT(BELOW) DOUBLE(ACUTE GRAVE) HOOK+RING(ABOVE) HORN(.AND(
   ACUTE GRAVE TILDE DOT(BELOW) HOOK(ABOVE))) INVERTED(BREVE) MACRON(.AND(DIAERESIS)) TILDE(.BELOW
   AND(ACUTE)))) V(.WITH(HOOK TILDE DIAGONAL(STROKE) DOT(BELOW))) VISIGOTHIC(Z) VOLAPUK(AE OE UE)
   W(.WITH(ACUTE CIRCUMFLEX DIAERESIS GRAVE HOOK DOT(ABOVE BELOW))) X(.WITH(DIAERESIS DOT(ABOVE)))
   Y(.WITH(ACUTE CIRCUMFLEX DIAERESIS GRAVE LOOP MACRON STROKE TILDE DOT(ABOVE BELOW) HOOK(
   .ABOVE))) Z(.WITH(ACUTE CARON CIRCUMFLEX DESCENDER HOOK STROKE DOT(ABOVE BELOW) LINE(BELOW)
   PALATAL(HOOK) SWASH(TAIL)))) LIGATURE(IJ OE)) EPIGRAPHIC(LETTER(ARCHAIC+INVERTED(M) I(LONGA)
   REVERSED(F P) SIDEWAYS(I))) LETTER(AIN WYNN YR ALVEOLAR+DENTAL+LATERAL(CLICK) BIDENTAL(
   PERCUSSIVE) BILABIAL(CLICK PERCUSSIVE) GLOTTAL(STOP(.WITH(STROKE))) INVERTED(GLOTTAL(STOP(.WITH(
   CURL STROKE)))) PHARYNGEAL(VOICED(FRICATIVE)) RETROFLEX(CLICK(.WITH(RETROFLEX(HOOK)))) REVERSED(
   ESH(LOOP) GLOTTAL(STOP(WITH(STROKE)))) SINOLOGICAL(DOT) SMALL(CAPITAL(A AE B C D E ETH EZH F H I
   J K M N O OE OU P Q RUM S T U V W Y Z BARRED(B) G(.WITH(HOOK)) INVERTED(R) L(.WITH(BELT STROKE))
   OPEN(O) R(.WITH(RIGHT(LEG))) REVERSED(N R) TURNED(E G K M R))) STRETCHED(C(.WITH(CURL))) TWO(
   WITH(STROKE)) VOICED(LARYNGEAL(SPIRANT))) SMALL(CAPITAL(LETTER(I+U(WITH(STROKE)))) LETTER(AA AO
   AU AY BETA CON DELTA DUM ET ETH GAMMA GHA HV IS KRA LJ LUM MUM NJ NUM OI OMEGA OO OU PHI
   SALTILLO TRESILLO TUM TZ UE UI UM UO VEND VY YOGH A(.REVERSED-SCHWA WITH(ACUTE CARON GRAVE
   MACRON OGONEK STROKE TILDE BREVE+CIRCUMFLEX(.AND(ACUTE GRAVE TILDE DOT(BELOW) HOOK(ABOVE)))
   DIAERESIS(.AND(MACRON)) DOT(BELOW ABOVE(.AND(MACRON))) DOUBLE(GRAVE) HOOK(ABOVE) INVERTED(BREVE)
   RETROFLEX(HOOK) RIGHT(HALF(RING)) RING(BELOW ABOVE(.AND(ACUTE))))) AE(.WITH(ACUTE MACRON))
   ALPHA+LEZH(.WITH(RETROFLEX(HOOK))) ANGLICANA(W) AV(.WITH(HORIZONTAL(BAR))) B(.WITH(FLOURISH HOOK
   STROKE TOPBAR DOT(ABOVE BELOW) LINE(BELOW) MIDDLE(TILDE) PALATAL(HOOK))) BARRED(ALPHA E O)
   BASELINE(ESH) BLACKLETTER(E O(.WITH(STROKE))) BOTTOM+TOP(HALF(O)) BROKEN(L) C(.WITH(ACUTE BAR
   CARON CIRCUMFLEX CURL HOOK STROKE CEDILLA(.AND(ACUTE)) DOT(ABOVE) PALATAL+RETROFLEX(HOOK))) CHI(
   .WITH(LOW(LEFT(SERIF) RIGHT(RING)))) CLOSED(OMEGA INSULAR(G) OPEN(E) REVERSED(OPEN(E)))
   CUATRILLO(.WITH(COMMA)) D(.WITH(CARON CEDILLA CURL STROKE TAIL TOPBAR CIRCUMFLEX+LINE(BELOW)
   DOT(ABOVE BELOW) HOOK(.AND(TAIL)) MIDDLE(TILDE) PALATAL(HOOK) SHORT(STROKE(OVERLAY)))) DB+LS+LZ+
   QP(DIGRAPH) DEZH+TESH(DIGRAPH(.WITH(PALATAL+RETROFLEX(HOOK)))) DOTLESS(I J(.WITH(STROKE(.AND(
   HOOK))))) DOUBLE(THORN WYNN R(.WITH(CROSSED-TAIL))) DZ(.DIGRAPH(.WITH(CURL RETROFLEX(HOOK)))
   WITH(CARON)) E(.WITH(ACUTE BREVE CARON DIAERESIS FLOURISH GRAVE NOTCH OGONEK STROKE CEDILLA(
   .AND(BREVE)) CIRCUMFLEX(.BELOW AND(ACUTE GRAVE TILDE DOT(BELOW) HOOK(ABOVE))) DOT(ABOVE BELOW)
   DOUBLE(GRAVE) HOOK(ABOVE) INVERTED(BREVE) MACRON(.AND(ACUTE GRAVE)) RETROFLEX(HOOK) TILDE(
   .BELOW))) EGYPTOLOGICAL(AIN ALEF) ENG(.WITH(CROSSED-TAIL PALATAL(HOOK))) ESH(.WITH(CURL DOUBLE(
   BAR(.AND(CURL))) PALATAL+RETROFLEX(HOOK))) EZH(.REVERSED WITH(CARON CURL TAIL PALATAL+RETROFLEX(
   HOOK))) F(.WITH(HOOK STROKE DOT(ABOVE) MIDDLE(TILDE) PALATAL(HOOK))) FENG(DIGRAPH(.WITH(TRILL)))
   G(.WITH(ACUTE BREVE CARON CEDILLA CIRCUMFLEX HOOK MACRON STROKE DOT(ABOVE) OBLIQUE(STROKE)
   PALATAL(HOOK))) GLOTTAL(A I STOP U) H(.WITH(CARON CEDILLA CIRCUMFLEX DESCENDER DIAERESIS HOOK
   STROKE BREVE+LINE(BELOW) DOT(ABOVE BELOW) PALATAL(HOOK))) HALF(H) HENG(.WITH(HOOK)) I(.WITH(
   ACUTE BREVE CARON CIRCUMFLEX GRAVE MACRON OGONEK DIAERESIS(.AND(ACUTE)) DOT(BELOW) DOUBLE(GRAVE)
   HOOK(ABOVE) INVERTED(BREVE) RETROFLEX(HOOK) STROKE(.AND(RETROFLEX(HOOK))) TILDE(.BELOW)))
   INSULAR(D F G R S T) INVERTED(ALPHA OE) IOTA+UPSILON(.WITH(STROKE)) IOTIFIED(E) J(.WITH(CARON
   CIRCUMFLEX CROSSED-TAIL STROKE)) K(.WITH(ACUTE CARON CEDILLA DESCENDER HOOK DIAGONAL+OBLIQUE(
   STROKE) DOT+LINE(BELOW) PALATAL(HOOK) STROKE(.AND(DIAGONAL(STROKE))))) L(.WITH(ACUTE BAR CARON
   CEDILLA CURL FISHHOOK STROKE BELT(.AND(PALATAL(HOOK))) CIRCUMFLEX+LINE(BELOW) DOT(BELOW(.AND(
   MACRON))) DOUBLE(BAR MIDDLE(TILDE)) HIGH(STROKE) INVERTED(LAZY(S)) MIDDLE(DOT RING TILDE)
   PALATAL(HOOK) RETROFLEX(HOOK(.AND(BELT))))) LAMBDA(WITH(STROKE)) LENIS(F) LONG(S(.WITH(DIAGONAL+
   HIGH(STROKE) DOT(ABOVE)))) M(.WITH(ACUTE CROSSED-TAIL HOOK DOT(ABOVE BELOW) MIDDLE(TILDE)
   PALATAL(HOOK))) MIDDLE(SCOTS(S)) MIDDLE-WELSH(LL V) N(.PRECEDED(BY(APOSTROPHE)) WITH(ACUTE CARON
   CEDILLA CROSSED-TAIL CURL DESCENDER GRAVE TILDE CIRCUMFLEX+LINE(BELOW) DOT(ABOVE BELOW) LEFT+
   PALATAL+RETROFLEX(HOOK) LONG(RIGHT(LEG)) MIDDLE(TILDE) OBLIQUE(STROKE))) O(.WITH(ACUTE BREVE
   CARON GRAVE LOOP CIRCUMFLEX+HORN(.AND(ACUTE GRAVE TILDE DOT(BELOW) HOOK(ABOVE))) DIAERESIS+
   OGONEK(.AND(MACRON)) DOT(BELOW ABOVE(.AND(MACRON))) DOUBLE(ACUTE GRAVE) HOOK(ABOVE) INVERTED(
   BREVE) LONG(STROKE(OVERLAY)) LOW(RING(INSIDE)) MACRON(.AND(ACUTE GRAVE)) RETROFLEX(HOOK) STROKE(
   .AND(ACUTE)) TILDE(.AND(ACUTE DIAERESIS MACRON)))) OLD(POLISH(O)) OPEN(OE E(.WITH(RETROFLEX(
   HOOK))) O(.WITH(STROKE RETROFLEX(HOOK)))) P(.WITH(ACUTE FLOURISH HOOK DOT(ABOVE) MIDDLE(TILDE)
   PALATAL(HOOK) SQUIRREL(TAIL) STROKE(.THROUGH(DESCENDER)))) Q(.WITH(DIAGONAL(STROKE) HOOK(.TAIL)
   STROKE(THROUGH(DESCENDER)))) R(.ROTUNDA WITH(ACUTE CARON CEDILLA CROSSED-TAIL STROKE TAIL DOT(
   ABOVE BELOW(.AND(MACRON))) DOUBLE(GRAVE) FISHHOOK(.AND(MIDDLE(TILDE) PALATAL(HOOK))) INVERTED(
   BREVE) LINE(BELOW) LONG(LEG) MIDDLE(TILDE) OBLIQUE(STROKE) PALATAL(HOOK)) WITHOUT(HANDLE)) RAMS(
   HORN) REVERSED(E ENG K C(.WITH(DOT)) HALF(H) OPEN(E(.WITH(HOOK RETROFLEX(HOOK)))) R(WITH(
   FISHHOOK)) SCRIPT(G)) RUM(.ROTUNDA) S(.WITH(CEDILLA CIRCUMFLEX CURL HOOK ACUTE+CARON(.AND(DOT(
   ABOVE))) COMMA(BELOW) DOT(ABOVE BELOW(.AND(DOT(ABOVE)))) MIDDLE(TILDE) OBLIQUE(STROKE) PALATAL(
   HOOK) SHORT(STROKE(OVERLAY)) SWASH(TAIL))) SAKHA(YAT) SCHWA(.WITH(HOOK RETROFLEX(HOOK))) SCRIPT(
   G(.WITH(CROSSED-TAIL)) R(.WITH(RING))) SHARP+SIGMOID(S) SIDEWAYS(U DIAERESIZED(U) O(.WITH(
   STROKE)) OPEN(O) TURNED(M)) SQUAT(REVERSED(ESH)) STIRRUP(R) T(.WITH(CARON CEDILLA CURL DIAERESIS
   STROKE CIRCUMFLEX+COMMA+LINE(BELOW) DIAGONAL(STROKE) DOT(ABOVE BELOW) HOOK(.AND(RETROFLEX(
   HOOK))) MIDDLE(TILDE) PALATAL+RETROFLEX(HOOK))) TAILLESS(PHI) TC(DIGRAPH(WITH(CURL))) TH(WITH(
   STRIKETHROUGH)) THORN(.WITH(STROKE(.THROUGH(DESCENDER)))) TONE(FIVE SIX TWO) TS(DIGRAPH(.WITH(
   RETROFLEX(HOOK)))) TURNED(A AE ALPHA DELTA E G I K L UI V W H(.WITH(FISHHOOK(.AND(TAIL))))
   INSULAR(G) M(.WITH(LONG(LEG))) O(OPEN-O(.WITH(STROKE))) OE(.WITH(STROKE HORIZONTAL(STROKE)))
   OPEN(E) R(.WITH(HOOK TAIL LONG(LEG(.AND(RETROFLEX(HOOK)))) MIDDLE(TILDE) PALATAL(HOOK))) T(
   .WITH(CURL)) Y(.WITH(BELT))) U(.BAR(.WITH(SHORT(RIGHT(LEG)))) WITH(ACUTE BREVE CARON GRAVE
   OGONEK STROKE CIRCUMFLEX(.BELOW) DIAERESIS(.BELOW AND(ACUTE CARON GRAVE MACRON)) DOT(BELOW)
   DOUBLE(ACUTE GRAVE) HOOK+RING(ABOVE) HORN(.AND(ACUTE GRAVE TILDE DOT(BELOW) HOOK(ABOVE)))
   INVERTED(BREVE) LEFT+RETROFLEX(HOOK) MACRON(.AND(DIAERESIS)) SHORT(RIGHT(LEG)) TILDE(.BELOW AND(
   ACUTE)))) V(.WITH(CURL HOOK TILDE DIAGONAL(STROKE) DOT(BELOW) PALATAL+RIGHT(HOOK))) VISIGOTHIC(
   Z) VOLAPUK(AE OE UE) W(.WITH(ACUTE CIRCUMFLEX DIAERESIS GRAVE HOOK DOT(ABOVE BELOW) RING(
   ABOVE))) X(.WITH(DIAERESIS DOT(ABOVE) LONG(LEFT(LEG(.AND(LOW(RIGHT(RING))) WITH(SERIF)))) LOW(
   RIGHT(RING)) PALATAL(HOOK))) Y(.WITH(ACUTE CIRCUMFLEX DIAERESIS GRAVE LOOP MACRON STROKE TILDE
   DOT(ABOVE BELOW) HOOK(.ABOVE) RING(ABOVE) SHORT(RIGHT(LEG)))) Z(.WITH(ACUTE CARON CIRCUMFLEX
   CURL DESCENDER HOOK STROKE DOT(ABOVE BELOW) LINE(BELOW) MIDDLE(TILDE) PALATAL+RETROFLEX(HOOK)
   SWASH(TAIL)))) LIGATURE(FF FFI FFL FI FL IJ OE ST LONG(S(T)))) SUBSCRIPT(SMALL(LETTER(A E H I J
   K L M N O P R S SCHWA T U V X)))) LEAF(FLUTTERING(IN(WIND))) LEAFY(GREEN) LEFT(CEILING FLOOR
   LUGGAGE MULTIMAP TACK AND(LOWER+UPPER(AND(RIGHT(TRIANGULAR(THREE(QUARTERS(BLOCK))))) ONE(EIGHTH(
   BLOCK))) RIGHT(TACK DOUBLE(TURNSTILE) TRIANGULAR(HALF(BLOCK)))) ANGER+SPEECH+THOUGHT(BUBBLE)
   ANGLE(BRACKET(.WITH(DOT))) ARC(LESS-THAN(BRACKET)) ARROW(WITH(CIRCLED(PLUS) SMALL(CIRCLE)))
   BARB(DOWN+UP(RIGHT(BARB(DOWN+UP(HARPOON))))) BLACK(LENTICULAR(BRACKET) TORTOISE(SHELL(BRACKET)))
   CLOSED(ENTRY) CORNER+SUBSTITUTION+TRANSPOSITION(BRACKET) CURLY(BRACKET(.LOWER+UPPER(HOOK)
   MIDDLE(PIECE))) DOTTED(SUBSTITUTION(BRACKET)) DOUBLE(PARENTHESIS ANGLE(BRACKET) QUOTATION(MARK)
   WIGGLY(FENCE)) FISH(TAIL) FIVE+SEVEN(EIGHTHS(BLOCK)) HALF(BLOCK FOLDER BLACK(CIRCLE STAR)
   CIRCLE(.WITH(DOT FOUR+THREE+TWO(DOTS))) INVERSE(MEDIUM(SHADE(AND(RIGHT(HALF(BLOCK)))))) MEDIUM(
   SHADE) RUNNING(MAN)) HAND(TELEPHONE(RECEIVER)) LOW(PARAPHRASE(BRACKET)) NORMAL(FACTOR(
   SEMIDIRECT(PRODUCT))) ONE(EIGHTH+QUARTER(BLOCK)) OUTER(JOIN) PARENTHESIS(.EXTENSION LOWER+UPPER(
   HOOK)) RAISED(OMISSION(BRACKET)) RIGHT(ARROW(.THROUGH(SMALL(CIRCLE)) WITH(STROKE DOUBLE(
   VERTICAL(STROKE)) VERTICAL(STROKE))) BLACK+OPEN-HEADED+SANS-SERIF+TRIANGLE-HEADED+WAVE+WHITE(
   ARROW) DOUBLE(ARROW(.WITH(STROKE VERTICAL(STROKE))))) S-SHAPED(BAG(DELIMITER)) SEMIDIRECT(
   PRODUCT) SIDEWAYS(U(BRACKET)) SINGLE(QUOTATION(MARK)) SQUARE(BRACKET(.EXTENSION LOWER+UPPER(
   CORNER) WITH(QUILL STROKE UNDERBAR DOUBLE(STROKE) TICK(IN(BOTTOM+TOP(CORNER)))))) THIRD(WHITE(
   RIGHT(POINTING(INDEX)))) THREE(EIGHTHS+QUARTERS(BLOCK)) TORTOISE(SHELL(BRACKET)) TRIANGLE(
   BESIDE(VERTICAL(BAR))) TRIANGULAR(ONE(QUARTER(BLOCK))) VERTICAL(BAR(WITH(QUILL)) BOX(LINE))
   WHITE(PARENTHESIS CORNER+CURLY+LENTICULAR+SQUARE(BRACKET) TORTOISE(SHELL(BRACKET))) WIGGLY(
   FENCE) WRITING(HAND)) LEFT-FACING+RIGHT-FACING(FIST ARMENIAN(ETERNITY(SIGN)) SVASTI(SIGN(.WITH(
   DOTS)))) LEFT-HANDED+RIGHT-HANDED(INTERLACED(PENTAGRAM)) LEFT-POINTING+RIGHT-POINTING(ANGLE(
   BRACKET) CURVED(ANGLE(BRACKET)) DOUBLE(ANGLE(QUOTATION(MARK))) MAGNIFYING(GLASS)) LEFT-SHADED+
   RIGHT-SHADED(WHITE(RIGHTWARDS(ARROW))) LEFT-SIDE(ARC(ANTICLOCKWISE(ARROW))) LEFT-TO-RIGHT+
   RIGHT-TO-LEFT(EMBEDDING ISOLATE MARK OVERRIDE) LEFTWARDS(ARROW-TAIL HAND ROCKET ARROW(.ABOVE(
   ALMOST(EQUAL(TO)) REVERSE(ALMOST(EQUAL(TO)) TILDE(OPERATOR)) SHORT(RIGHTWARDS(ARROW)) TILDE(
   OPERATOR)) AND(UPPER(AND(LOWER(ONE(EIGHTH(BLOCK)))))) FROM(BAR(.TO(BLACK(DIAMOND)))) OVER(
   RIGHTWARDS(ARROW)) THROUGH(LESS-THAN SUBSET X) TO(BAR(.OVER(RIGHTWARDS(ARROW(TO(BAR))))) BLACK(
   DIAMOND)) WITH(HOOK LOOP STROKE DOTTED(STEM) DOUBLE(VERTICAL(STROKE)) EQUILATERAL(ARROWHEAD)
   LARGE+MEDIUM(TRIANGLE(ARROWHEAD)) NOTCHED(TAIL) PLUS(BELOW) SMALL(EQUILATERAL+TRIANGLE(
   ARROWHEAD)) TAIL(.WITH(DOUBLE(VERTICAL(STROKE)) VERTICAL(STROKE))) TIP(DOWNWARDS UPWARDS)
   VERTICAL(STROKE))) BACK-TILTED+FRONT-TILTED(SHADOWED(WHITE(ARROW))) BLACK(ARROW CIRCLED(WHITE(
   ARROW))) BOTTOM-SHADED+LEFT-SHADED+RIGHT-SHADED(WHITE(ARROW)) COMPRESSED+DASHED+FINGER-POST+
   OPEN-HEADED+QUADRUPLE+SANS-SERIF+SQUARED+SQUIGGLE+WAVE(ARROW) DOUBLE(ARROW-TAIL ARROW(.FROM(BAR)
   WITH(STROKE VERTICAL(STROKE))) DASH(ARROW)) HARPOON(OVER(RIGHTWARDS(HARPOON)) WITH(BARB(
   DOWNWARDS UPWARDS DOWN(ABOVE(RIGHTWARDS(HARPOON(WITH(BARB(DOWN))))) BELOW(LONG(DASH)) FROM+TO(
   BAR)) UP(ABOVE(LEFTWARDS(HARPOON(WITH(BARB(DOWN)))) LONG(DASH) RIGHTWARDS(HARPOON(WITH(BARB(
   UP))))) FROM+TO(BAR))))) HEAVY(ARROW COMPRESSED(ARROW)) PAIRED(ARROWS) TOP(SHADED(WHITE(ARROW)))
   TRIANGLE(ARROWHEAD) TRIANGLE-HEADED(ARROW(.OVER(RIGHTWARDS(TRIANGLE-HEADED(ARROW))) TO(BAR)
   WITH(BOLD+HEAVY+MEDIUM+NARROW(SHAFT) DOUBLE(HORIZONTAL+VERTICAL(STROKE)) LONG(TIP(DOWNWARDS
   UPWARDS)) VERY(HEAVY(SHAFT)))) DASHED(ARROW) PAIRED(ARROWS)) TRIPLE(ARROW DASH(ARROW)) TWO(
   HEADED(ARROW)) TWO-HEADED(ARROW(FROM(BAR) WITH(DOUBLE(VERTICAL(STROKE)) TAIL(.WITH(DOUBLE(
   VERTICAL(STROKE)) VERTICAL(STROKE))) TRIANGLE(ARROWHEADS) VERTICAL(STROKE))) TRIPLE(DASH(
   ARROW))) WHITE(ARROW(.WITHIN(TRIANGLE(ARROWHEAD))))) LEPCHA(CONSONANT(SIGN(K KANG L M N NYIN-DO
   P R T)) DIGIT(EIGHT FIVE FOUR NINE ONE SEVEN SIX THREE TWO ZERO) LETTER(A BA BLA CA CHA DA DDA
   DZA FA FLA GA GLA HA HLA JA KA KHA KLA LA MA MLA NA NGA NYA PA PHA PLA RA SA SHA TA THA TSA TSHA
   TTA TTHA VA WA YA) PUNCTUATION(CER-WA TA-ROL NYET(THYOOM(TA-ROL)) TSHOOK(.CER-WA)) SIGN(NUKTA
   RAN) SUBJOINED(LETTER(RA YA)) VOWEL(SIGN(AA E I O OO U UU))) LESS-THAN(SIGN ABOVE(DOUBLE-LINE(
   EQUAL(ABOVE(GREATER-THAN))) GREATER-THAN(ABOVE(DOUBLE-LINE(EQUAL))) LEFTWARDS(ARROW) SIMILAR(
   ABOVE(GREATER-THAN) OR(EQUAL)) SLANTED(EQUAL(ABOVE(GREATER-THAN(ABOVE(SLANTED(EQUAL))))))) AND(
   NOT(APPROXIMATE) SINGLE-LINE(NOT(EQUAL(TO)))) BUT(NOT(EQUAL+EQUIVALENT(TO))) CLOSED(BY(CURVE(
   .ABOVE(SLANTED(EQUAL))))) EQUAL(TO(OR(GREATER-THAN))) OR(APPROXIMATE GREATER-THAN EQUAL+
   EQUIVALENT(TO) SLANTED(EQUAL(TO(.WITH(DOT(INSIDE ABOVE(.RIGHT))))))) OVER(EQUAL(TO)) WITH(DOT
   CIRCLE(INSIDE) QUESTION(MARK(ABOVE)))) LEVEL(SLIDER) LIGATURE(OPEN(ET(ORNAMENT))) LIGHT(RAIL
   SALTIRE SHADE CHECK(MARK) EIGHT+SIX(SPOKED(ASTERISK)) FIVE(POINTED(BLACK(STAR)) SPOKED(
   ASTERISK)) FOUR(POINTED(BLACK(CUSP STAR))) GREEK(CROSS) LEFT+RIGHT(TORTOISE(SHELL(BRACKET(
   ORNAMENT)))) THREE+TWELVE(POINTED(BLACK(STAR))) VERTICAL(BAR) WHITE(SQUARE)) LIGHTNING(.MOOD(
   .BUBBLE)) LIMBU(DIGIT(EIGHT FIVE FOUR NINE ONE SEVEN SIX THREE TWO ZERO) EXCLAMATION+QUESTION(
   MARK) LETTER(BA BHA CA CHA DA DHA GA GHA GYAN HA JA JHA KA KHA LA MA NA NGA PA PHA RA SA SHA SSA
   TA THA TRA WA YA YAN) SIGN(KEMPHRENG LOO MUKPHRENG SA-I) SMALL(LETTER(ANUSVARA KA LA MA NA NGA
   PA RA TA)) SUBJOINED(LETTER(RA WA YA)) VOWEL(SIGN(A AI AU E EE I O OO U)) VOWEL-CARRIER(LETTER))
   LIMITED(LIABILITY(SIGN)) LINE(FEED SEPARATOR INTEGRATION(NOT(INCLUDING(THE(POLE))) WITH(
   RECTANGULAR+SEMICIRCULAR(PATH(AROUND(POLE))))) TABULATION(.SET)) LINEAR(A(SIGN(A028B A100-102
   A120B A131C A301~308 A309A A309B A309C A310~312 A313A A313B A313C A314~371 A400-VAS A401-VAS
   A402-VAS A403-VAS A404-VAS A405-VAS A406-VAS A407-VAS A408-VAS A409-VAS A410-VAS A411-VAS
   A412-VAS A413-VAS A414-VAS A415-VAS A416-VAS A417-VAS A418-VAS A501~506 A508~513 A515~516
   A520~521 A523~532 A534~542 A545 A547~557 A559 A563~566 A568~589 A591~592 A594~596 A598 A600~604
   A606 A608~624 A626~629 A634 A637~638 A640 A642~646 A648~649 A651~664 A800~807 AB001~011 AB013
   AB016~017 AB020~024 AB021F AB021M AB022F AB022M AB023M AB026~031 AB034 AB037~041 AB044~051
   AB053~061 AB065~067 AB069~070 AB073~074 AB076~082 AB085~087 AB118 AB120 AB122~123 AB131A AB131B
   AB164 AB171 AB180 AB188 AB191 A701(A) A702(B) A703(D) A704(E) A705(F) A706(H) A707(J) A708(K)
   A709(L) A709-2(L2) A709-3(L3) A709-4(L4) A709-6(L6) A710(W) A711(X) A712(Y) A713(OMEGA) A714(
   ABB) A715(BB) A717(DD) A726(EYYY) A732(JE))) B(IDEOGRAM(B132 B142 B146 B150 B152~154 B157~158
   B160~161 B164~172 B174 B177~185 B189~190 B232 B234 B236 B245~246 B248~249 B251~253 B255~259
   B100(MAN) B102(WOMAN) B104(DEER) B105(EQUID) B105F(MARE) B105M(STALLION) B106F(EWE) B106M(RAM)
   B107F(SHE-GOAT) B107M(HE-GOAT) B108F(SOW) B108M(BOAR) B109F(COW) B109M(BULL) B120(WHEAT) B121(
   BARLEY) B122(OLIVE) B123(SPICE) B125(CYPERUS) B130(OIL) B131(WINE) B140(BRONZE) B141(GOLD) B145(
   WOOL) B151(HORN) B159(CLOTH) B162(GARMENT) B163(ARMOUR) B173(MONTH) B176(TREE) B191(HELMET)
   B220(FOOTSTOOL) B225(BATHTUB) B230(SPEAR) B231(ARROW) B233(SWORD) B240(WHEELED(CHARIOT)) B241(
   CHARIOT) B242(CHARIOT(FRAME)) B243(WHEEL) B254(DART) VESSEL(B155 B200~219 B221~222 B226~229 B250
   B305)) MONOGRAM(B127(KAPO) B128(KANAKO) B133(AREPA) B135(MERI) B156(TURO2) B247(DIPTE))
   SYLLABLE(B001(DA) B002(RO) B003(PA) B004(TE) B005(TO) B006(NA) B007(DI) B008(A) B009(SE) B010(U)
   B011(PO) B012(SO) B013(ME) B014(DO) B015(MO) B016(QA) B017(ZA) B020(ZO) B021(QI) B023(MU) B024(
   NE) B025(A2) B026(RU) B027(RE) B028(I) B029(PU2) B030(NI) B031(SA) B032(QO) B033(RA3) B036(JO)
   B037(TI) B038(E) B039(PI) B040(WI) B041(SI) B042(WO) B043(A3) B044(KE) B045(DE) B046(JE) B048(
   NWA) B050(PU) B051(DU) B052(NO) B053(RI) B054(WA) B055(NU) B057(JA) B058(SU) B059(TA) B060(RA)
   B061(O) B062(PTE) B065(JU) B066(TA2) B067(KI) B068(RO2) B069(TU) B070(KO) B071(DWE) B072(PE)
   B073(MI) B074(ZE) B075(WE) B076(RA2) B077(KA) B078(QE) B080(MA) B081(KU) B085(AU) B087(TWE)
   B090(DWO) B091(TWO)) SYMBOL(B018~019 B022 B034 B047 B049 B056 B063~064 B079 B082~083 B086
   B089))) LINKED(PAPERCLIPS) LISU(LETTER(A AE BA CA CHA DA DZA E EU FA GA GHA HA HHA I JA KA KHA
   LA MA NA NGA O OE PA PHA SA SHA TA THA TSA TSHA U UE UH WA XA YA YHA ZA ZHA TONE(MYA(BO CYA JEU
   NA TI) NA(PO))) PUNCTUATION(COMMA FULL(STOP))) LIVRE(TOURNOIS(SIGN)) LOCK(.WITH(INK(PEN)))
   LOCKING-SHIFT(ONE ZERO) LOGICAL(AND(.WITH(UNDERBAR DOT(ABOVE) DOUBLE(OVERBAR UNDERBAR)
   HORIZONTAL(DASH) MIDDLE(STEM))) OR(.OVERLAPPING(LOGICAL(AND)) WITH(DOT(ABOVE) DOUBLE(OVERBAR
   UNDERBAR) HORIZONTAL(DASH) MIDDLE(STEM)))) LONG(DIVISION DRUM DASH(FROM(LEFT(MEMBER(OF(DOUBLE(
   VERTICAL)))))) LEFT(TACK RIGHT(ARROW DOUBLE(ARROW))) LEFTWARDS+RIGHTWARDS(ARROW(.FROM(BAR))
   DOUBLE(ARROW(.FROM(BAR))) SQUIGGLE(ARROW)) RIGHT(TACK)) LOTION(BOTTLE) LOUDLY(CRYING(FACE))
   LOVE(HOTEL LETTER) LOW(ASTERISK BATTERY LINE BRIGHTNESS(SYMBOL) DOUBLE(PRIME(QUOTATION(MARK)))
   KAVYKA(.WITH(DOT))) LOWER(BLADE(SCISSORS) FIVE+SEVEN(EIGHTHS(BLOCK)) HALF(BLOCK CIRCLE INVERSE(
   WHITE(CIRCLE)) MEDIUM(SHADE)) LEFT(CRAYON PAINTBRUSH PENCIL TRIANGLE BALLPOINT+FOUNTAIN(PEN)
   BLOCK(DIAGONAL(LOWER(MIDDLE(LEFT(TO(LOWER(CENTRE RIGHT))))) UPPER(CENTRE(TO(LOWER(RIGHT MIDDLE(
   RIGHT)) UPPER(MIDDLE(RIGHT)))) LEFT(TO(LOWER(CENTRE MIDDLE(RIGHT)) UPPER(MIDDLE(RIGHT))))
   MIDDLE(LEFT(TO(LOWER(CENTRE RIGHT MIDDLE(RIGHT)))))))) QUADRANT(CIRCULAR(ARC)) SEMICIRCULAR(
   ANTICLOCKWISE(ARROW)) TRIANGULAR(MEDIUM(SHADE))) ONE(EIGHTH+QUARTER(BLOCK)) RIGHT(PENCIL
   TRIANGLE BLOCK(DIAGONAL(LOWER(CENTRE(TO(LOWER(MIDDLE(RIGHT)) UPPER(RIGHT MIDDLE(RIGHT)))) LEFT(
   TO(LOWER(MIDDLE(RIGHT)) UPPER(CENTRE MIDDLE(RIGHT)))) MIDDLE(LEFT(TO(UPPER(CENTRE RIGHT MIDDLE(
   RIGHT)))))) UPPER(MIDDLE(LEFT(TO(UPPER(CENTRE RIGHT))))))) CORNER(WITH(DOT)) DROP-SHADOWED(
   WHITE(SQUARE)) QUADRANT(CIRCULAR(ARC)) SEMICIRCULAR(CLOCKWISE(ARROW)) SHADOWED(WHITE(CIRCLE
   SQUARE)) TRIANGULAR(MEDIUM(SHADE))) THREE(EIGHTHS+QUARTERS(BLOCK)) TRIANGULAR(ONE(QUARTER(
   BLOCK)))) LOZENGE(.DIVIDED(BY(HORIZONTAL(RULE)))) LYCIAN(LETTER(A AN B BH D E EN G H I J K KK L
   M MM N NN P Q R S T TH TT U W X Z)) LYDIAN(LETTER(A AN B C D E EN F G I K L LY M N NN O Q R S SS
   T TT U V Y) TRIANGULAR(MARK)) MAGIC(WAND) MAHAJANI(ABBREVIATION(SIGN) LETTER(A BA BHA CA CHA DA
   DDA DDHA DHA E GA GHA HA I JA JHA KA KHA LA MA NA NNA NYA O PA PHA RA RRA SA TA THA TTA TTHA U
   VA) LIGATURE(SHRI) SECTION(MARK) SIGN(NUKTA)) MAHJONG(TILE(AUTUMN BACK BAMBOO CHRYSANTHEMUM
   JOKER ORCHID PLUM SPRING SUMMER WINTER EAST+NORTH+SOUTH+WEST(WIND) EIGHT+FIVE+FOUR+NINE+ONE+
   SEVEN+SIX+THREE+TWO(OF(BAMBOOS CHARACTERS CIRCLES)) GREEN+RED+WHITE(DRAGON))) MAKASAR(ANGKA
   PASSIMBANG END(OF(SECTION)) LETTER(A BA CA DA GA JA KA LA MA NA NGA NYA PA RA SA TA VA YA)
   VOWEL(SIGN(E I O U))) MALAYALAM(AU(LENGTH(MARK)) DATE(MARK) DIGIT(EIGHT FIVE FOUR NINE ONE SEVEN
   SIX THREE TWO ZERO) FRACTION(ONE(EIGHTH FIFTH FORTIETH HALF ONE-HUNDRED-AND-SIXTIETH QUARTER
   SIXTEENTH TENTH TWENTIETH) THREE(EIGHTIETHS QUARTERS SIXTEENTHS TWENTIETHS)) LETTER(A AA AI AU
   BA BHA CA CHA DA DDA DDHA DHA E EE GA GHA HA I II JA JHA KA KHA LA LLA LLLA MA NA NGA NNA NNNA
   NYA O OO PA PHA RA RRA SA SHA SSA TA THA TTA TTHA TTTA U UU VA YA ARCHAIC(II) CHILLU(K L LL LLL
   M N NN RR Y) DOT(REPH) VEDIC(ANUSVARA) VOCALIC(L LL R RR)) NUMBER(TEN ONE(HUNDRED THOUSAND))
   SIGN(ANUSVARA AVAGRAHA CANDRABINDU PARA VIRAMA VISARGA CIRCULAR(VIRAMA) COMBINING(ANUSVARA(
   ABOVE)) VERTICAL(BAR(VIRAMA))) VOWEL(SIGN(AA AI AU E EE I II O OO U UU VOCALIC(L LL R RR))))
   MALE(SIGN AND(FEMALE(SIGN)) WITH(STROKE(SIGN AND(MALE(AND(FEMALE(SIGN))))))) MAN(.DANCING AND(
   WOMAN(HOLDING(HANDS))) IN(TUXEDO BUSINESS(SUIT(LEVITATING))) WITH(TURBAN GUA(PI(MAO)))) MANDAIC(
   PUNCTUATION AFFRICATION+GEMINATION+VOCALIZATION(MARK) LETTER(AB AD AG AH AIN AK AKSA AL AM AN AP
   AQ AR AS ASH ASZ AT ATT AZ DUSHENNA HALQA IN IT KAD USHENNA)) MANICHAEAN(ABBREVIATION(MARK(ABOVE
   BELOW)) LETTER(AAYIN ALEPH AYIN BETH BHETH DALETH DHAMEDH FE GHIMEL GIMEL HE HETH JAYIN JHAYIN
   KAPH KHAPH LAMEDH MEM NUN PE QHOPH QOPH RESH SADHE SAMEKH SHIN SSHIN TAW TETH THAMEDH WAW XAPH
   XOPH YODH ZAYIN ZHAYIN) NUMBER(FIVE TEN TWENTY ONE(.HUNDRED)) PUNCTUATION(FLEURON STAR DOT(
   .WITHIN(DOT)) DOUBLE(DOT(WITHIN(DOT))) LINE(FILLER) TWO(DOTS)) SIGN(UD)) MANUAL+MOTORIZED(
   WHEELCHAIR) MAP(SYMBOL(FOR(LIGHTHOUSE))) MARCHEN(HEAD(MARK) LETTER(-A A BA CA CHA DA DZA GA HA
   JA KA KHA LA MA NA NGA NYA PA PHA RA SA SHA TA THA TSA TSHA WA YA ZA ZHA) MARK(SHAD) SIGN(
   ANUSVARA CANDRABINDU) SUBJOINED(LETTER(A BA CA CHA DA DZA GA HA JA KA KHA LA MA NA NGA NYA PA
   PHA RA SA SHA TA THA TSA TSHA WA YA ZA ZHA)) VOWEL(SIGN(AA E I O U))) MARTIAL(ARTS(UNIFORM))
   MASARAM(GONDI(RA-KARA REPHA VIRAMA DIGIT(EIGHT FIVE FOUR NINE ONE SEVEN SIX THREE TWO ZERO)
   LETTER(A AA AI AU BA BHA CA CHA DA DDA DDHA DHA E GA GHA HA I II JA JHA JNYA KA KHA KSSA LA LLA
   MA NA NGA NNA NYA O PA PHA RA SA SHA SSA TA THA TRA TTA TTHA U UU VA YA) SIGN(ANUSVARA CANDRA
   HALANTA NUKTA VISARGA) VOWEL(SIGN(AA AI AU E I II O U UU VOCALIC(R))))) MASK(WORK(SYMBOL)) MATE(
   DRINK) MATHEMATICAL(BOLD(NABLA CAPITAL(A ALPHA B BETA C CHI D DELTA DIGAMMA E EPSILON ETA F G
   GAMMA H I IOTA J K KAPPA L LAMDA M MU N NU O OMEGA OMICRON P PHI PI PSI Q R RHO S SIGMA T TAU U
   UPSILON V W X XI Y Z ZETA THETA(.SYMBOL)) DIGIT(EIGHT FIVE FOUR NINE ONE SEVEN SIX THREE TWO
   ZERO) EPSILON+KAPPA+PHI+PI+RHO+THETA(SYMBOL) FRAKTUR+SCRIPT(CAPITAL+SMALL(A B C D E F G H I J K
   L M N O P Q R S T U V W X Y Z)) ITALIC(NABLA CAPITAL(A ALPHA B BETA C CHI D DELTA E EPSILON ETA
   F G GAMMA H I IOTA J K KAPPA L LAMDA M MU N NU O OMEGA OMICRON P PHI PI PSI Q R RHO S SIGMA T
   TAU U UPSILON V W X XI Y Z ZETA THETA(.SYMBOL)) EPSILON+KAPPA+PHI+PI+RHO+THETA(SYMBOL) PARTIAL(
   DIFFERENTIAL) SMALL(A ALPHA B BETA C CHI D DELTA E EPSILON ETA F G GAMMA H I IOTA J K KAPPA L
   LAMDA M MU N NU O OMEGA OMICRON P PHI PI PSI Q R RHO S SIGMA T TAU THETA U UPSILON V W X XI Y Z
   ZETA FINAL(SIGMA))) PARTIAL(DIFFERENTIAL) SMALL(A ALPHA B BETA C CHI D DELTA DIGAMMA E EPSILON
   ETA F G GAMMA H I IOTA J K KAPPA L LAMDA M MU N NU O OMEGA OMICRON P PHI PI PSI Q R RHO S SIGMA
   T TAU THETA U UPSILON V W X XI Y Z ZETA FINAL(SIGMA))) DOUBLE-STRUCK(CAPITAL(A B D E F G I J K L
   M O S T U V W X Y) DIGIT(EIGHT FIVE FOUR NINE ONE SEVEN SIX THREE TWO ZERO) SMALL(A B C D E F G
   H I J K L M N O P Q R S T U V W X Y Z)) FALLING+RISING(DIAGONAL) FRAKTUR(CAPITAL(A B D E F G J K
   L M N O P Q S T U V W X Y) SMALL(A B C D E F G H I J K L M N O P Q R S T U V W X Y Z)) ITALIC(
   NABLA CAPITAL(A ALPHA B BETA C CHI D DELTA E EPSILON ETA F G GAMMA H I IOTA J K KAPPA L LAMDA M
   MU N NU O OMEGA OMICRON P PHI PI PSI Q R RHO S SIGMA T TAU U UPSILON V W X XI Y Z ZETA THETA(
   .SYMBOL)) EPSILON+KAPPA+PHI+PI+RHO+THETA(SYMBOL) PARTIAL(DIFFERENTIAL) SMALL(A ALPHA B BETA C
   CHI D DELTA E EPSILON ETA F G GAMMA I IOTA J K KAPPA L LAMDA M MU N NU O OMEGA OMICRON P PHI PI
   PSI Q R RHO S SIGMA T TAU THETA U UPSILON V W X XI Y Z ZETA DOTLESS(I J) FINAL(SIGMA))) LEFT+
   RIGHT(ANGLE(BRACKET) DOUBLE(ANGLE(BRACKET)) FLATTENED(PARENTHESIS) WHITE(SQUARE(BRACKET)
   TORTOISE(SHELL(BRACKET)))) MONOSPACE(CAPITAL+SMALL(A B C D E F G H I J K L M N O P Q R S T U V W
   X Y Z) DIGIT(EIGHT FIVE FOUR NINE ONE SEVEN SIX THREE TWO ZERO)) SANS-SERIF(BOLD(NABLA CAPITAL(A
   ALPHA B BETA C CHI D DELTA E EPSILON ETA F G GAMMA H I IOTA J K KAPPA L LAMDA M MU N NU O OMEGA
   OMICRON P PHI PI PSI Q R RHO S SIGMA T TAU U UPSILON V W X XI Y Z ZETA THETA(.SYMBOL)) DIGIT(
   EIGHT FIVE FOUR NINE ONE SEVEN SIX THREE TWO ZERO) EPSILON+KAPPA+PHI+PI+RHO+THETA(SYMBOL)
   ITALIC(NABLA CAPITAL(A ALPHA B BETA C CHI D DELTA E EPSILON ETA F G GAMMA H I IOTA J K KAPPA L
   LAMDA M MU N NU O OMEGA OMICRON P PHI PI PSI Q R RHO S SIGMA T TAU U UPSILON V W X XI Y Z ZETA
   THETA(.SYMBOL)) EPSILON+KAPPA+PHI+PI+RHO+THETA(SYMBOL) PARTIAL(DIFFERENTIAL) SMALL(A ALPHA B
   BETA C CHI D DELTA E EPSILON ETA F G GAMMA H I IOTA J K KAPPA L LAMDA M MU N NU O OMEGA OMICRON
   P PHI PI PSI Q R RHO S SIGMA T TAU THETA U UPSILON V W X XI Y Z ZETA FINAL(SIGMA))) PARTIAL(
   DIFFERENTIAL) SMALL(A ALPHA B BETA C CHI D DELTA E EPSILON ETA F G GAMMA H I IOTA J K KAPPA L
   LAMDA M MU N NU O OMEGA OMICRON P PHI PI PSI Q R RHO S SIGMA T TAU THETA U UPSILON V W X XI Y Z
   ZETA FINAL(SIGMA))) CAPITAL+SMALL(A B C D E F G H I J K L M N O P Q R S T U V W X Y Z) DIGIT(
   EIGHT FIVE FOUR NINE ONE SEVEN SIX THREE TWO ZERO) ITALIC(CAPITAL+SMALL(A B C D E F G H I J K L
   M N O P Q R S T U V W X Y Z))) SCRIPT(CAPITAL(A C D G J K N O P Q S T U V W X Y Z) SMALL(A B C D
   F H I J K L M N P Q R S T U V W X Y Z))) MAYAN(NUMERAL(EIGHT EIGHTEEN ELEVEN FIFTEEN FIVE FOUR
   FOURTEEN NINE NINETEEN ONE SEVEN SEVENTEEN SIX SIXTEEN TEN THIRTEEN THREE TWELVE TWO ZERO))
   MEASURED(BY ANGLE(.OPENING(LEFT) WITH(OPEN(ARM(ENDING(IN(ARROW(POINTING(DOWN+UP(AND(LEFT RIGHT))
   LEFT+RIGHT(AND(DOWN UP)))))))))) RIGHT(ANGLE(WITH(DOT)))) MEAT(ON(BONE)) MECHANICAL(ARM LEG)
   MEDEFAIDRIN(COMMA CAPITAL+SMALL(LETTER(A AI ATIU B C D E F G H HP I J K KP L M N NG NY O OE P Q
   R S T U V W X Y YU Z)) DIGIT(EIGHT FIVE FOUR NINE SEVEN SIX ZERO ONE+THREE+TWO(.ALTERNATE(
   FORM))) EXCLAMATION(OH) FULL(STOP) NUMBER(EIGHTEEN ELEVEN FIFTEEN FOURTEEN NINETEEN SEVENTEEN
   SIXTEEN TEN THIRTEEN TWELVE) SYMBOL(AIVA)) MEDIEVAL(COMMA EXCLAMATION+QUESTION(MARK)) MEDIUM(
   SALTIRE SHADE BLACK(CIRCLE) BOLD+SMALL(WHITE(CIRCLE)) EIGHT+SIX(POINTED(BLACK(STAR)) SPOKED(
   ASTERISK)) FIVE(SPOKED(ASTERISK)) FLATTENED(LEFT+RIGHT(PARENTHESIS(ORNAMENT))) FOUR+THREE(
   POINTED(BLACK+PINWHEEL(STAR))) GREEK(CROSS) LEFT+RIGHT(CURLY(BRACKET(ORNAMENT)) PARENTHESIS(
   ORNAMENT)) LEFT-POINTING+RIGHT-POINTING(ANGLE(BRACKET(ORNAMENT))) MATHEMATICAL(SPACE) VERTICAL(
   BAR) WHITE(CIRCLE SQUARE)) MEETEI(MAYEK(ANJI CHEIKHAN CHEIKHEI VIRAMA AHANG(KHUDAM) APUN+LUM(
   IYEK) DIGIT(EIGHT FIVE FOUR NINE ONE SEVEN SIX THREE TWO ZERO) LETTER(ATIYA BA BHAM CHA CHIL DDA
   DDHA DHOU DIL E GHOU GOK HUK JHAM JIL KHOU NNA NYA O PHAM RAI SAM SHA SSA THOU TTA TTHA UN WAI
   YANG I+KOK+LAI+MIT+NA+NGOU+PA+TIL(.LONSUM)) SYLLABLE+WORD(REPETITION(MARK)) VOWEL(SIGN(AAI AAU
   ANAP AU CHEINAP II INAP NUNG ONAP SOUNAP UNAP UU VISARGA YENAP)))) MENDE(KIKAKUI(COMBINING(
   NUMBER(HUNDREDS MILLIONS TEENS TENS THOUSANDS HUNDRED+TEN(THOUSANDS))) DIGIT(EIGHT FIVE FOUR
   NINE ONE SEVEN SIX THREE TWO) SYLLABLE(M001(KI) M002(KA) M003(KU) M004(WI) M005(WA) M006(WU)
   M007(MIN) M008(MAN) M009(MUN) M010(BI) M011(BA) M012(BU) M013(I) M014(A) M015(U) M016(DI) M017(
   DA) M018(DU) M019(SI) M020(SA) M021(SU) M022(TI) M023(TA) M024(TU) M025(LI) M026(LA) M027(LU)
   M028(JI) M029(JA) M030(JU) M031(YI) M032(YA) M033(YU) M034(FI) M035(FA) M036(FU) M037(NIN) M038(
   NAN) M039(NUN) M040(HEE) M041(HA) M042(HOO) M043(NGGA) M044(KPEE) M045(WO) M046(HUAN) M047+M188(
   MBEE) M048(KO) M049(WVA) M050(PU) M051(PE) M052(HEN) M053(HIN) M054(LOO) M055(TE) M056(GBA)
   M057(NGON) M058(NYAN) M059(MEN) M060(NYON) M061(WVI) M062(MBA) M063(JO) M064(NDO) M065(KEE)
   M066(PO) M067(NDOO) M068(PI) M069(TO) M070(GBO) M071(GBOO) M072(MBE) M073(LE) M074(KPU) M075(FE)
   M076(KOO) M077(VO) M078(FEE) M079(SO) M080(YE) M081(PEE) M082(NGGU) M083(HEEI) M084(LEE) M085(
   VE) M086(LONG(NGGE)) M087(HUN) M088(FO) M089(DEE) M090(NGGI) M091(TEE) M092(KPA) M093(GBEE)
   M094(MON) M095(KE) M096(HE) M097(BE) M098(NYEN) M099(PA) M100(E) M101(FAN) M102(POO) M103(BOO)
   M104(TOO) M105(LONG(MBOO)) M106(LONG(NGGOO)) M107(GBE) M108(KPE) M109(YEE) M110(LONG(LE)) M111(
   GA) M112(KPOO) M113(JE) M114(WOO) M115(NGGEE) M116(SE) M117(NEN) M118(WE) M119(NDE) M120(NGGO)
   M121(YO) M122(MBU) M123(NDI) M124(GBI) M125(NDU) M126(WEE) M127(NGGUA) M128(HOOU) M129(NDA)
   M130(HAN) M131+M135(IN) M132(KPI) M133(FOO) M134(NJOO) M136(SOO) M137(EI) M138(BO) M139(WVE)
   M140(HO) M141(YOO) M142(LONG(MBO)) M143(WEI) M144(VOO) M145(MBI) M146(NGGE) M147(O) M148(GBU)
   M149(NJEE) M150(BEE) M151(VU) M152(NJA) M153(LO) M154(MUAN) M155(GI) M156(NGGOO) M157(JEE) M158(
   KPO) M159(NGGAA) M160(JOO) M161(LONG(MBE)) M162(SEE) M163(EE) M164(NYIN) M165(OO) M166(GUEI)
   M167(GUAN) M168(GU) M169(NON) M170(NYUN) M171(RA) M172(MBOO) M173(VEE) M174(MBO) M175(LONG(JO))
   M176(HI) M177(NGUAN) M178(EN) M179(KUA) M180(DOO) M181(DO) M182(VI) M183(LONG(NGGO)) M184(NGEN)
   M185(VA) M186(HU) M187(MBUU) M189(MUEN) M190(GEE) M191(NDEE) M192(NJU) M193(HON) M194(WUI) M195(
   AN) M196(SIA) M197(FUA)))) MENORAH(WITH(NINE(BRANCHES))) MEROITIC(CURSIVE(FRACTION(EIGHT+ELEVEN+
   FIVE+FOUR+NINE+SEVEN+SIX+TEN+THREE+TWO(TWELFTHS) ONE(HALF TWELFTH)) LETTER(A BA DA E HHA I KA
   KHA LA MA NA NE O PA QA RA SA SE TA TE TO WA YA ARCHAIC(SA)) LOGOGRAM(IMN RMT) NUMBER(EIGHT+
   FIVE+FOUR+NINE+ONE+SEVEN+SIX+THREE+TWO(.THOUSAND HUNDRED(.THOUSAND)) EIGHTY+NINETY(THOUSAND)
   FIFTY+FORTY+SEVENTY+SIXTY+TEN+THIRTY+TWENTY(.THOUSAND))) HIEROGLYPHIC(LETTER(A BA BA-2 DA E HHA
   I KA KHA LA MA NA NA-2 NE NE-2 O PA QA RA RA-2 SA SA-2 SE TA TA-2 TE TE-2 TO WA YA) SYMBOL(VIDJ
   VIDJ-2))) MESSAGE(WAITING) METRICAL(BREVE PENTASEME TETRASEME TRISEME LONG(OVER(SHORT TWO(
   SHORTS))) SHORT(OVER(LONG)) TWO(SHORTS(JOINED OVER(LONG)))) MIAO(LETTER(AH BA BRI DA DDA DLHA
   DLHYA DZA DZHA DZYI DZZA FA GA GHA GHHA HA HHA KA LA LHA LHYA LYA MA MHA NA NASALIZATION NGA
   NGHA NHA NNA NNHA NYA NYHA PA PLA QA QGA RTE SA SHA SSA SYI TA TE TLHA TLHYA TONE-2~8 TSA TSE
   TSHA TSSA TTA VA VFA WA XA ZA ZHA ZSA ZSHA ZZA ZZSA ZZSYA ZZYA ARCHAIC(MA NA NGA ZZA) REFORMED(
   TONE-1~2 TONE-4~6 TONE-8 TSHA) YI(DZHA KA NNA PA TA TSA TSHA TTA)) SIGN(ASPIRATION CONSONANT(
   MODIFIER(BAR)) REFORMED(ASPIRATION VOICING)) TONE(ABOVE BELOW RIGHT TOP(RIGHT)) VOWEL(SIGN(A AA
   AE AEE AHH AI AN ANG AU E EA EI EN ENG ER ERR I IA IAN IANG IE IG II ING IO IONG IU N NG O OER
   OEY OG OO OU U UA UAN UANG UEI UI UNG UOG UU VW W WO Y YI YUI ROUNDED(ER ERR)))) MICR(DASH(
   SYMBOL) ON(US(SYMBOL))) MIDDLE(DOT THIRD(WHITE(RIGHT(POINTING(INDEX))))) MIDLINE(HORIZONTAL(
   ELLIPSIS)) MILITARY(HELMET MEDAL) MILKY(WAY) MINUS(TILDE SIGN(.IN(TRIANGLE) WITH(COMMA(ABOVE)
   DOT(BELOW) FALLING+RISING(DOTS)))) MIRROR(.BALL) MOBILE(PHONE(.OFF WITH(RIGHTWARDS(ARROW(AT(
   LEFT)))))) MODERN(PENTATHLON) MODI(DANDA ABBREVIATION(SIGN) DIGIT(EIGHT FIVE FOUR NINE ONE SEVEN
   SIX THREE TWO ZERO) DOUBLE(DANDA) LETTER(A AA AI AU BA BHA CA CHA DA DDA DDHA DHA E GA GHA HA I
   II JA JHA KA KHA LA LLA MA NA NGA NNA NYA O PA PHA RA SA SHA SSA TA THA TTA TTHA U UU VA YA
   VOCALIC(L LL R RR)) SIGN(ANUSVARA ARDHACANDRA HUVA VIRAMA VISARGA) VOWEL(SIGN(AA AI AU E I II O
   U UU VOCALIC(L LL R RR)))) MODIFIER(BREVE(WITH(INVERTED(BREVE))) LETTER(APOSTROPHE COLON MACRON
   PRIME SHELF UNASPIRATED US VOICING ACUTE+CIRCUMFLEX+CROSS+GRAVE(ACCENT) ALVEOLAR+BILABIAL+
   DENTAL+LATERAL(CLICK) BEGIN+END(HIGH+LOW(TONE)) CAPITAL(A AE B C D E F G I J K L M N O OU P Q R
   T U V W BARRED(B) H(.WITH(STROKE)) REVERSED(E N)) CENTRED(LEFT+RIGHT(HALF(RING))) CHINESE(TONE(
   YANG+YIN(PING QU RU SHANG))) CYRILLIC(EN HARD+SOFT(SIGN)) DOT(SLASH HORIZONTAL+VERTICAL(BAR))
   DOUBLE(APOSTROPHE PRIME) DOWN+UP(ARROWHEAD TACK) EXTRA-HIGH+EXTRA-LOW+HIGH+MID(DOTTED(LEFT-STEM(
   TONE(BAR)) TONE(BAR)) LEFT-STEM(TONE(BAR)) TONE(BAR)) GEORGIAN(NAR) GLOTTAL(STOP(.WITH(STROKE)))
   HALF(TRIANGULAR(COLON)) LEFT+RIGHT(ARROWHEAD TACK HALF(RING)) LOW(MACRON RING TILDE ACUTE+
   CIRCUMFLEX+GRAVE(ACCENT) DOTTED(LEFT-STEM(TONE(BAR)) TONE(BAR)) DOWN+RIGHT+UP(ARROWHEAD)
   INVERTED(EXCLAMATION(MARK)) LEFT(ARROW ARROWHEAD) LEFT-STEM(TONE(BAR)) TONE(BAR) VERTICAL(LINE))
   LOWER(RIGHT(CORNER(ANGLE))) MIDDLE(DOUBLE(ACUTE+GRAVE(ACCENT)) GRAVE(ACCENT)) MINUS+PLUS(SIGN)
   OPEN(SHELF) RAISED(COLON DOWN+UP(ARROW) EXCLAMATION(MARK) INVERTED(EXCLAMATION(MARK)))
   RETROFLEX(CLICK(WITH(RETROFLEX(HOOK)))) REVERSED(COMMA GLOTTAL(STOP(.WITH(STROKE)))) RHOTIC(
   HOOK) SHORT(EQUALS(SIGN)) SMALL(A AE AIN ALPHA BETA CHI DELTA E ENG ESH ETH EZH F GAMMA IOTA K P
   PHI Q SCHWA THETA UPSILON W X Y B+G+HENG+M(.WITH(HOOK)) BARRED(O) BOTTOM+TOP(HALF(O)) C(.WITH(
   CURL)) CAPITAL(AA B H N OE R U Y G(.WITH(HOOK)) I(.WITH(STROKE)) INVERTED(R) L(.WITH(BELT)))
   CLOSED(OMEGA REVERSED(OPEN(E))) D(.WITH(TAIL HOOK(.AND(TAIL)))) DEZH+FENG+LS+LZ+TESH(DIGRAPH)
   DOTLESS(J(WITH(STROKE(.AND(HOOK))))) DZ(DIGRAPH(.WITH(CURL RETROFLEX(HOOK)))) GREEK(GAMMA PHI)
   H(.WITH(HOOK STROKE)) I(WITH(STROKE)) J(.WITH(CROSSED-TAIL)) L(.WITH(BELT INVERTED(LAZY(S))
   MIDDLE(TILDE) PALATAL(HOOK) RETROFLEX(HOOK(.AND(BELT))))) LEZH(.WITH(RETROFLEX(HOOK))) LIGATURE(
   OE) N(WITH(LEFT+RETROFLEX(HOOK))) O(.WITH(STROKE)) OPEN(E O) R(.WITH(FISHHOOK TAIL)) RAMS(HORN)
   REVERSED(E GLOTTAL(STOP) OPEN(E)) S(.WITH(CURL HOOK)) SCRIPT(G) SIDEWAYS(U) T(.WITH(PALATAL+
   RETROFLEX(HOOK))) TC(DIGRAPH(WITH(CURL))) TS(DIGRAPH(.WITH(RETROFLEX(HOOK)))) TURNED(A AE ALPHA
   H I V W M(.WITH(LONG(LEG))) OPEN(E) R(.WITH(HOOK LONG(LEG(.AND(RETROFLEX(HOOK)))))) Y(.WITH(
   BELT))) U(.BAR WITH(LEFT(HOOK))) V(.WITH(HOOK RIGHT(HOOK))) Z(.WITH(CURL RETROFLEX(HOOK))))
   STRESS(AND(HIGH+LOW(TONE))) SUPERSCRIPT(HALF(TRIANGULAR(COLON)) TRIANGULAR(COLON)) TRIANGULAR(
   COLON) TURNED(COMMA) VERTICAL(LINE) YANG+YIN(DEPARTING(TONE(MARK))))) MODULO(TWO(SUM)) MONEY(BAG
   WITH(WINGS)) MONGOLIAN(COLON COMMA ELLIPSIS NIRUGU BIRGA(.WITH(ORNAMENT DOUBLE(ORNAMENT)))
   DIGIT(EIGHT FIVE FOUR NINE ONE SEVEN SIX THREE TWO ZERO) DOUBLE+TRIPLE(BIRGA(WITH(ORNAMENT)))
   FOUR(DOTS) FREE(VARIATION(SELECTOR(FOUR ONE THREE TWO))) FULL(STOP) INVERTED(BIRGA(.WITH(DOUBLE(
   ORNAMENT)))) LETTER(A ANG BA CHI DA E EE FA GA HAA I JA KA KHA LA LHA MA NA O OE PA QA RA SA SHA
   TA TSA U UE WA YA ZA ZHI ZRA ALI(GALI(A AH BALUDA CA DA DAGALGA DAMARU DDA I KA NGA NNA PA PHA
   SSA TA TTA TTHA UBADAMA ZA ZHA ANUSVARA+VISARGA(ONE) HALF(U YA) INVERTED(UBADAMA) THREE(
   BALUDA))) CHA(.WITH(TWO(DOTS))) MANCHU(FA I KA RA ZHA ALI(GALI(BHA CA CYA DDHA DHA GHA JHA LHA
   NGA SSA TA TTA ZA ZHA))) SIBE(ANG CHA DA E FA GA GAA HA HAA I IY JA KA PA RAA SHA TA TSA U UE ZA
   ZHA) TODO(ANG BA CHA DA DZA E GA GAA HAA I JA JIA KA MA NIA O OE PA QA TA TSA U UE WA YA ALI(
   GALI(TA ZHA)) LONG(VOWEL(SIGN)))) MANCHU(COMMA FULL(STOP)) ROTATED+SWIRL(BIRGA(.WITH(ORNAMENT
   DOUBLE(ORNAMENT)))) SIBE(SYLLABLE(BOUNDARY(MARKER))) TODO(SOFT(HYPHEN)) TURNED(SWIRL(BIRGA(WITH(
   DOUBLE(ORNAMENT))))) VOWEL(SEPARATOR)) MONOGRAM(FOR(EARTH YANG YIN)) MOOD(BUBBLE) MOON(CAKE
   VIEWING(CEREMONY)) MOTOR(BOAT SCOOTER) MOUNT(FUJI) MOUNTAIN(.BICYCLIST CABLEWAY RAILWAY) MOUSE(
   .FACE TRAP) MOVIE(CAMERA) MRO(DANDA DIGIT(EIGHT FIVE FOUR NINE ONE SEVEN SIX THREE TWO ZERO)
   DOUBLE(DANDA) LETTER(A BA CHU DA DAI E EA HAI HAO KEAAE KHAI KO LA LAN MAEM MIM NGI NIN O OL OO
   PA PHI RI RO SHI TA TEK THEA WA YO)) MUCH(GREATER-THAN LESS-THAN) MULTANI(LETTER(A BA BHA CA CHA
   DA DDA DDDA DDHA DHA E GA GHA HA I JA JJA KA KHA LA MA NA NNA NYA PA PHA RA RHA RRA SA TA THA
   TTA TTHA U VA YA) SECTION(MARK)) MULTIPLE(MUSICAL(NOTES)) MULTIPLICATION(X SIGN(.IN(TRIANGLE
   DOUBLE(CIRCLE) LEFT+RIGHT(HALF(CIRCLE))) WITH(UNDERBAR DOT(ABOVE)))) MULTISET(.MULTIPLICATION
   UNION) MUSIC(FLAT+NATURAL+SHARP(SIGN)) MUSICAL(NOTE SCORE KEYBOARD(.WITH(JACKS)) SYMBOL(BRACE
   BRACKET BREVE CAESURA CLIMACUS CLIVIS CODA CRESCENDO CROIX DECRESCENDO FORTE HAUPTSTIMME KORON
   MAXIMA MEZZO NEBENSTIMME PIANO PODATUS RINFORZANDO SEGNO SORI SUBITO TR VIRGA Z ARPEGGIATO+FLAT+
   GLISSANDO+NATURAL+SHARP(DOWN UP) BEGIN(BEAM PHRASE SLUR TIE) BREATH(MARK) BREVIS(.REST) C(CLEF)
   CIRCLE(X(NOTEHEAD)) CLUSTER+MOON(NOTEHEAD(BLACK WHITE)) COMBINING(ACCENT ACCENT-STACCATO BEND
   DOIT FLAG-1~5 FLIP HARMONIC LOURE MARCATO MARCATO-STACCATO RIP SMEAR STACCATISSIMO STACCATO STEM
   TENUTO TREMOLO-1~3 AUGMENTATION(DOT) DOUBLE+TRIPLE(TONGUE) DOWN+UP(BOW) SNAP(PIZZICATO)
   SPRECHGESANG(STEM)) COMMON+CUT(TIME) DA(CAPO) DAL(SEGNO) DAMP(.ALL) DASHED+FINAL+SHORT+SINGLE(
   BARLINE) DEGREE(SLASH) DOUBLE(BARLINE FLAT SHARP) DRUM(CLEF-1~2) EIGHTH+SIXTEENTH+SIXTY-FOURTH+
   THIRTY-SECOND+WHOLE(NOTE REST) END(BEAM PHRASE SLUR TIE OF(STIMME)) F+G(CLEF(.OTTAVA(ALTA
   BASSA))) FERMATA(.BELOW) FINGERED(TREMOLO-1~3) FIVE-LINE+FOUR-LINE+ONE-LINE+SIX-LINE+THREE-LINE+
   TWO-LINE(STAFF) FOUR-STRING+SIX-STRING(FRETBOARD) FUSA(BLACK WHITE) GRACE(NOTE(SLASH NO(SLASH)))
   GREGORIAN(C+F(CLEF)) HALF(NOTE REST PEDAL(MARK)) INVERTED(TURN) KIEVAN(C(CLEF) EIGHTH+QUARTER(
   NOTE(STEM(DOWN UP))) END(OF(PIECE)) FINAL+HALF+WHOLE(NOTE) FLAT(SIGN) RECITATIVE(MARK)) LEFT+
   RIGHT(REPEAT(SIGN)) LONGA(.IMPERFECTA+PERFECTA(REST)) MINIMA(.BLACK REST) MULTI(REST) MULTIPLE(
   MEASURE(REST)) NOTEHEAD(BLACK) NULL+PARENTHESIS+PLUS+VOID+X(NOTEHEAD) ONE(HUNDRED(TWENTY-EIGHTH(
   NOTE REST))) ORNAMENT(STROKE-1~9 STROKE-10~11) OTTAVA+QUINDICESIMA(ALTA BASSA) PEDAL(MARK UP(
   MARK)) PES(SUBPUNCTIS) PORRECTUS+SCANDICUS(.FLEXUS) QUARTER(NOTE REST TONE(FLAT SHARP)) REPEAT(
   DOTS) REPEATED(FIGURE-1~3) REVERSE(FINAL(BARLINE)) SEMIBREVIS+SEMIMINIMA(BLACK REST WHITE)
   SQUARE(B NOTEHEAD(BLACK WHITE)) TEMPUS(IMPERFECTUM(CUM(PROLATIONE(PERFECTA IMPERFECTA(
   .DIMINUTION-1~3)))) PERFECTUM(CUM(PROLATIONE(IMPERFECTA PERFECTA(.DIMINUTION-1))))) TORCULUS(
   .RESUPINUS) TRIANGLE(NOTEHEAD(DOWN+LEFT+RIGHT(BLACK WHITE) UP(BLACK WHITE RIGHT(BLACK WHITE))))
   TRIANGLE-ROUND(NOTEHEAD(DOWN(BLACK WHITE))) TURN(.SLASH UP) WITH(FINGERNAILS))) MYANMAR(
   CONSONANT(SIGN(MEDIAL(HA RA WA YA) MON(MEDIAL(LA MA NA)) SHAN(MEDIAL(WA)))) DIGIT(EIGHT FIVE
   FOUR NINE ONE SEVEN SIX THREE TWO ZERO) LETTER(A AU BA BHA CA CHA DA DDA DDHA DHA E GA GHA HA I
   II JA JHA KA KHA LA LLA MA NA NGA NNA NNYA NYA O PA PHA RA SA SHA SSA TA THA TTA TTHA U UU WA YA
   AITON(RA) EASTERN(PWO(KAREN(GHWA NNA YWA))) GREAT(SA) KHAMTI(CA CHA DDA DDHA DHA FA GA HA HHA JA
   JHA LLA NA NYA RA SA TTA TTHA XA ZA) MON(BBA BBE E JHA NGA) RUMAI(PALAUNG(FA)) SGAW(KAREN(SHA))
   SHAN(A BA BHA CA CHA DA FA GA GHA HA JHA KA KHA NA NNA NYA PHA THA ZA) SHWE(PALAUNG(CHA SHA))
   TAI(LAING(BA BHA DA DDA DDHA DHA FA GA GHA JA JHA LLA NNA NYA)) VOCALIC(L LL R RR) WESTERN(PWO(
   KAREN(PWA THA)))) LOGOGRAM(KHAMTI(HM OAY QN)) MODIFIER(LETTER(KHAMTI+SHAN(REDUPLICATION))) SHAN(
   DIGIT(EIGHT FIVE FOUR NINE ONE SEVEN SIX THREE TWO ZERO)) SIGN(ANUSVARA ASAT SECTION VIRAMA
   VISARGA DOT(BELOW) KHAMTI(TONE-1 TONE-3) LITTLE(SECTION) PAO(KAREN(TONE)) RUMAI(PALAUNG(TONE-5))
   SHAN(SAW TONE-2~3 TONE-5~6 COUNCIL(TONE-2~3 EMPHATIC(TONE))) TAI(LAING(TONE-2 TONE-5)) WESTERN(
   PWO(KAREN(TONE-1~5)))) SYMBOL(AFOREMENTIONED COMPLETED GENITIVE LOCATIVE AITON(EXCLAMATION ONE
   TWO) SHAN(EXCLAMATION ONE)) TAI(LAING(DIGIT(EIGHT FIVE FOUR NINE ONE SEVEN SIX THREE TWO ZERO)))
   TONE(MARK(SGAW(KAREN(HATHI KE(PHO))))) VOWEL(SIGN(AA AI I II U UU AITON(A AI) E(.ABOVE) GEBA(
   KAREN(I)) KAYAH(EE OE U) MON(II O) SGAW(KAREN(EU)) SHAN(AA E(.ABOVE) FINAL(Y)) TALL(AA) VOCALIC(
   L LL R RR) WESTERN(PWO(KAREN(EU UE)))))) N-ARY(COPRODUCT INTERSECTION PRODUCT SUMMATION CIRCLED(
   DOT+PLUS+TIMES(OPERATOR)) LOGICAL(AND OR) SQUARE(INTERSECTION+UNION(OPERATOR)) TIMES(OPERATOR)
   UNION(.OPERATOR(WITH(DOT PLUS))) WHITE(VERTICAL(BAR))) NABATAEAN(CRUCIFORM(NUMBER(FOUR)) LETTER(
   ALEPH AYIN BETH DALETH GIMEL HE HETH KAPH LAMEDH MEM NUN PE QOPH RESH SADHE SAMEKH SHIN TAW TETH
   WAW YODH ZAYIN FINAL(ALEPH BETH HE KAPH LAMEDH MEM NUN SHIN YODH)) NUMBER(FIVE FOUR TEN THREE
   TWENTY TWO ONE(.HUNDRED))) NAIL(POLISH) NAME(BADGE) NANDINAGARI(HEADSTROKE LETTER(A AA AI AU BA
   BHA CA CHA DA DDA DDHA DHA E GA GHA HA I II JA JHA KA KHA LA LLA MA NA NGA NNA NYA O PA PHA RA
   RRA SA SHA SSA TA THA TTA TTHA U UU VA YA VOCALIC(R RR)) SIGN(ANUSVARA AVAGRAHA SIDDHAM VIRAMA
   VISARGA) VOWEL(SIGN(AA AI AU E I II O U UU PRISHTHAMATRA(E) VOCALIC(R RR)))) NARROW(NO-BREAK(
   SPACE)) NATIONAL(PARK DIGIT(SHAPES)) NAZAR(AMULET) NEGATED(DOUBLE(VERTICAL(BAR(DOUBLE(RIGHT(
   TURNSTILE)))))) NEGATIVE(ACKNOWLEDGE CIRCLED(SQUARE TRIANGLE DIGIT(ZERO) LATIN(CAPITAL(LETTER(A
   B C D E F G H I J K L M N O P Q R S T U V W X Y Z))) NUMBER(EIGHTEEN ELEVEN FIFTEEN FOURTEEN
   NINETEEN SEVENTEEN SIXTEEN THIRTEEN TWELVE TWENTY)) DIAGONAL(CROSS DIAMOND MIDDLE(RIGHT(TO(
   LOWER(CENTRE))))) SQUARED(AB IC PA SA WC CROSS+QUESTION(MARK) LATIN(CAPITAL(LETTER(A B C D E F G
   H I J K L M N O P Q R S T U V W X Y Z))))) NEITHER(A(SUBSET+SUPERSET(OF(NOR(EQUAL(TO)))))
   APPROXIMATELY(NOR(ACTUALLY(EQUAL(TO)))) GREATER-THAN(NOR(LESS-THAN EQUAL+EQUIVALENT(TO)))
   LESS-THAN(NOR(GREATER-THAN EQUAL+EQUIVALENT(TO)))) NEPTUNE(.FORM(TWO)) NEST(WITH(EGGS)) NESTING(
   DOLLS) NEUTRAL(FACE CHESS(BISHOP+KING+PAWN+QUEEN+ROOK(.ROTATED(NINETY(DEGREES) TWO(HUNDRED(
   SEVENTY(DEGREES))))) EQUIHOPPER(.ROTATED(NINETY(DEGREES))) KNIGHT(.ROTATED(FORTY-FIVE+NINETY(
   DEGREES) ONE(HUNDRED(THIRTY-FIVE(DEGREES))) THREE(HUNDRED(FIFTEEN(DEGREES))) TWO(HUNDRED(
   SEVENTY+TWENTY-FIVE(DEGREES))))) TURNED(BISHOP KING KNIGHT PAWN QUEEN ROOK))) NEW(LINE MOON(
   SYMBOL WITH(FACE)) SHEQEL(SIGN) TAI(LUE(DIGIT(EIGHT FIVE FOUR NINE ONE SEVEN SIX THREE TWO ZERO)
   LETTER(FINAL(B D K M N NG V) HIGH+LOW(BA DA FA HA KA KVA LA MA NA NGA PA PHA QA SA SUA TA THA
   TSA VA XA XVA YA)) SIGN(LAE LAEV) THAM(DIGIT(ONE)) TONE(MARK-1~2) VOWEL(SIGN(AA AAY AE AY E II
   IY O OA OAY OY U UE UEY UU UY VOWEL(SHORTENER)))))) NEWA(COMMA DANDA OM SIDDHI ABBREVIATION+
   INSERTION(SIGN) DIGIT(EIGHT FIVE FOUR NINE ONE SEVEN SIX THREE TWO ZERO) DOUBLE(COMMA DANDA)
   GAP(FILLER) LETTER(A AA AI AU BA BHA CA CHA DA DDA DDHA DHA E GA GHA HA I II JA JHA KA KHA LA
   LHA MA MHA NA NGA NGHA NHA NNA NYA NYHA O PA PHA RA RHA SA SHA SSA TA THA TTA TTHA U UU WA YA
   VEDIC(ANUSVARA) VOCALIC(L LL R RR)) PLACEHOLDER+SANDHI(MARK) SIGN(ANUSVARA AVAGRAHA CANDRABINDU
   JIHVAMULIYA NUKTA UPADHMANIYA VIRAMA VISARGA FINAL(ANUSVARA)) VOWEL(SIGN(AA AI AU E I II O U UU
   VOCALIC(L LL R RR)))) NEWLINE(LEFT RIGHT) NEXT(LINE PAGE) NIGHT(WITH(STARS)) NKO(COMMA
   DANTAYALAN LAJANYALAN COMBINING(DOUBLE(DOT(ABOVE)) LONG(DESCENDING+HIGH+LOW+RISING(TONE))
   NASALIZATION(MARK) SHORT(HIGH+LOW+RISING(TONE))) DIGIT(EIGHT FIVE FOUR NINE ONE SEVEN SIX THREE
   TWO ZERO) DOROME+TAMAN(SIGN) EXCLAMATION(MARK) HIGH+LOW(TONE(APOSTROPHE)) LETTER(A BA CHA DA
   DAGBASINNA E EE FA GBA HA I JA KA LA MA N O OO PA RA RRA SA TA U WA YA JONA(CHA JA RA) NA+NYA(
   .WOLOSO)) SYMBOL(GBAKURUNEN OO(DENNEN))) NO(BICYCLES PEDESTRIANS PIRACY BREAK(HERE) ENTRY(.SIGN)
   MOBILE(PHONES) ONE(UNDER(EIGHTEEN(SYMBOL))) SMOKING(SYMBOL)) NOMINAL(DIGIT(SHAPES))
   NON-BREAKING(HYPHEN) NON-POTABLE+POTABLE(WATER(SYMBOL)) NORDIC+TRADE(MARK(SIGN)) NORMAL(
   SUBGROUP(OF(.OR(EQUAL(TO))))) NORTH(EAST(AND(SOUTH(WEST(ARROW))) ARROW(.AND(SOUTH(EAST(ARROW)))
   CROSSING(NORTH(WEST(ARROW)) SOUTH(EAST(ARROW))) WITH(HOOK)) BLACK+DOUBLE+SANS-SERIF+WHITE(ARROW)
   POINTING(BUD LEAF VINE(LEAF)) TRIANGLE-HEADED(ARROW(.TO(BAR)))) INDIC(FRACTION(ONE(EIGHTH HALF
   QUARTER SIXTEENTH) THREE(QUARTERS SIXTEENTHS)) PLACEHOLDER+QUANTITY+QUARTER+RUPEE(MARK)) WEST(
   AND(SOUTH(EAST(ARROW))) ARROW(.AND+CROSSING(NORTH(EAST(ARROW))) TO(CORNER LONG(BAR)) WITH(HOOK))
   BLACK+DOUBLE+SANS-SERIF+WHITE(ARROW) POINTING(BUD LEAF VINE(LEAF)) TRIANGLE-HEADED(ARROW(.TO(
   BAR))))) NORTHEAST-POINTING(AIRPLANE) NOT(GREATER-THAN LESS-THAN SIGN TILDE TRUE A(SUBSET+
   SUPERSET(OF)) ALMOST+ASYMPTOTICALLY(EQUAL(TO)) AN(ELEMENT(OF)) CHECK(MARK) EQUAL+EQUIVALENT+
   IDENTICAL+PARALLEL(TO) NORMAL(SUBGROUP(OF(.OR(EQUAL(TO))))) SQUARE(IMAGE+ORIGINAL(OF(OR(EQUAL(
   TO)))))) NOTCHED(LEFT+RIGHT(SEMICIRCLE(WITH(THREE(DOTS)))) LOWER+UPPER(RIGHT-SHADOWED(WHITE(
   RIGHTWARDS(ARROW))))) NOTE(.PAD PAGE) NOTEBOOK(.WITH(DECORATIVE(COVER))) NUMBER(SIGN EIGHTEEN+
   ELEVEN+FIFTEEN+FOURTEEN+NINETEEN+SEVENTEEN+SIXTEEN+TEN+THIRTEEN+TWELVE+TWENTY(FULL(STOP)))
   NUSHU(ITERATION(MARK)) NUT(AND(BOLT)) NYIAKENG(PUACHUE(HMONG(TONE-B TONE-D TONE-G TONE-J TONE-M
   TONE-S TONE-V CIRCLED(CA) DIGIT(EIGHT FIVE FOUR NINE ONE SEVEN SIX THREE TWO ZERO) LETTER(A AA
   CA DA DLA E EE FA GA HA HAH I KA LA MA MLA NA NCA NKA NPA NPLA NQA NRA NTA NTSA NTXA NYA O OO PA
   PLA QA RA RRA SA TA TSA TXA U VA W XA XYA YA ZA) LOGOGRAM(NYAJ) SIGN(FOR(ANIMAL INVERTEBRATE
   LOCATION PERSON THING) XW(XW)) SYLLABLE(LENGTHENER)))) OBJECT(REPLACEMENT(CHARACTER)) OBLIQUE(
   HYPHEN ANGLE(OPENING(DOWN UP))) OBSERVER(EYE(SYMBOL)) OCR(CHAIR DASH FORK HOOK AMOUNT(OF(CHECK))
   BELT(BUCKLE) BOW(TIE) BRANCH(BANK(IDENTIFICATION)) CUSTOMER(ACCOUNT(NUMBER)) DOUBLE(BACKSLASH)
   INVERTED(FORK)) OGHAM(FEATHER+SPACE(MARK) LETTER(AILM BEITH CEIRT COLL DAIR EABHADH EADHADH
   EAMHANCHOLL FEARN GORT IFIN IODHADH LUIS MUIN NGEADAL NION ONN OR PEITH RUIS SAIL STRAIF TINNE
   UATH UILLEANN UR) REVERSED(FEATHER(MARK))) OIL(DRUM) OL(CHIKI(AHAD PHAARKAA RELAA DIGIT(EIGHT
   FIVE FOUR NINE ONE SEVEN SIX THREE TWO ZERO) GAAHLAA+MU-GAAHLAA(TTUDDAAG) LETTER(AAJ AAK AAM AAW
   AG AL ANG AT EDD EN EP ERR IH INY IR IS LA LAA LE LI LO LU OB OH OTT OV UC UD UNN UY) MU(
   TTUDDAG) PUNCTUATION(MUCAAD DOUBLE(MUCAAD)))) OLD(KEY CHINESE(HOOK+ITERATION(MARK)) HUNGARIAN(
   CAPITAL+SMALL(LETTER(A AA AK AMB AND E EB EC ECH ECS ED EE EF EG EGY EH EJ EK EL ELY EM EMP EN
   ENC ENT ENY EP ER ES ESZ ET ETY EV EZ EZS I II O OEE OO U UNK US UU CLOSE(E) ENT-SHAPED(SIGN)
   NIKOLSBURG+RUDIMENTA(OE UE) SHORT(ER))) NUMBER(FIFTY FIVE TEN ONE(.HUNDRED THOUSAND))) ITALIC(
   LETTER(A BE CHE DE E EF EKS EL EM EN ER ERS ES ESH ESS HE I II KA KE KHE KU O PE PHE SHE TE THE
   U UU VE YE ZE NORTHERN+SOUTHERN(TSE)) NUMERAL(FIFTY FIVE ONE TEN)) NORTH(ARABIAN(LETTER(AIN ALEF
   BEH DAD DAL ES-1~3 FEH GEEM GHAIN HAH HEH KAF KHAH LAM MEEM NOON QAF REH SAD TAH TEH THAL THEH
   WAW YEH ZAH ZAIN) NUMBER(ONE TEN TWENTY))) PERMIC(LETTER(AN BUR CHERY DOI DZHOI DZITA E EF GAI
   HA I IA IE KOKE LEI MENOE NENOE O OO PEEI REI SHCHOOI SHOOI SII TAI TSIU U VER VOOI YA YAT YER
   YERI YERU YRY YU ZATA ZHOI)) PERSIAN(NUMBER(HUNDRED ONE TEN TWENTY TWO) SIGN(A AURAMAZDAA
   AURAMAZDAA-2 AURAMAZDAAHA BA BAGA BUUMISH CA DA DAHYAAUSH DAHYAAUSH-2 DI DU FA GA GU HA I JA JI
   KA KU LA MA MI MU NA NU PA RA RU SA SHA SSA TA THA TU U VA VI XA XSHAAYATHIYA YA ZA) WORD(
   DIVIDER)) PERSONAL(COMPUTER) SOGDIAN(FRACTION(ONE(HALF)) LETTER(ALEPH AYIN BETH GIMEL HE HETH
   KAPH LAMEDH MEM NUN PE RESH-AYIN-DALETH SADHE SAMEKH SHIN TAW WAW YODH ZAYIN ALTERNATE(AYIN)
   FINAL(ALEPH BETH HE NUN+SADHE+TAW(.WITH(VERTICAL(TAIL))))) LIGATURE(AYIN-DALETH) NUMBER(FIVE
   FOUR TEN THIRTY THREE TWENTY TWO ONE(.HUNDRED))) SOUTH(ARABIAN(LETTER(ALEF AYN BETH DALETH
   DHADHE DHALETH FE GHAYN GIMEL HE HETH KAPH KHETH LAMEDH MEM NUN QOPH RESH SADHE SAMEKH SAT SHIN
   TAW TETH THAW THETH WAW YODH ZAYN) NUMBER(FIFTY ONE) NUMERIC(INDICATOR))) TURKIC(LETTER(ORKHON(A
   AB AD AEB AED AEG AEK AEL AEN AER AES AET AEY AG AL AN AQ AR AS ASH AT AY BASH EC ELT EM ENC ENG
   ENT ENY EP ESH EZ I IC IQ O OE OEK OP OQ OT) YENISEI(A AB AD AE AEB AEG AEK AEN AENG AET AEY AG
   AL ANG AQ AR ASH AT AY E EC ENC ENT ENY ESH EZ I IQ OE OEK OQ))) UYGHUR(COMBINING(DOT(ABOVE
   BELOW) TWO(DOTS(ABOVE BELOW))) LETTER(ALEPH BETH GIMEL-HETH KAPH LAMEDH LESH MEM NUN PE RESH
   SADHE SAMEKH SHIN TAW WAW YODH ZAYIN FINAL(HETH)) PUNCTUATION(BAR FOUR(DOTS) TWO(BARS DOTS))))
   OLDER(ADULT MAN WOMAN) ON(WITH(EXCLAMATION(MARK(WITH(LEFT(RIGHT(ARROW(ABOVE)))))))) ONCOMING(
   AUTOMOBILE BUS TAXI FIRE(ENGINE) POLICE(CAR)) ONE(BUTTON(MOUSE) DOT(LEADER OVER(TWO(DOTS(
   PUNCTUATION))))) ONE-PIECE(SWIMSUIT) OPEN(BOOK BOX FOLDER LOCK SUBSET SUPERSET CENTRE(ASTERISK
   CROSS BLACK(STAR) TEARDROP-SPOKED(ASTERISK)) FILE(FOLDER) HANDS(SIGN) MAILBOX(WITH(LOWERED+
   RAISED(FLAG)))) OPEN-CIRCUIT-OUTPUT(H-TYPE+L-TYPE(SYMBOL)) OPEN-OUTLINED+TEARDROP-BARBED+
   TRIANGLE-HEADED+WEDGE-TAILED+WHITE-FEATHERED(RIGHTWARDS(ARROW)) OPERATING(SYSTEM(COMMAND))
   OPTICAL(DISC(.ICON)) OPTION(KEY) OR(WITH(DOT(INSIDE))) ORIYA(ISSHAR AI+AU(LENGTH(MARK)) DIGIT(
   EIGHT FIVE FOUR NINE ONE SEVEN SIX THREE TWO ZERO) FRACTION(ONE(EIGHTH HALF QUARTER SIXTEENTH)
   THREE(QUARTERS SIXTEENTHS)) LETTER(A AA AI AU BA BHA CA CHA DA DDA DDHA DHA E GA GHA HA I II JA
   JHA KA KHA LA LLA MA NA NGA NNA NYA O PA PHA RA RHA RRA SA SHA SSA TA THA TTA TTHA U UU VA WA YA
   YYA VOCALIC(L LL R RR)) SIGN(ANUSVARA AVAGRAHA CANDRABINDU NUKTA OVERLINE VIRAMA VISARGA) VOWEL(
   SIGN(AA AI AU E I II O U UU VOCALIC(L LL R RR)))) ORNATE(LEFT+RIGHT(PARENTHESIS)) OSAGE(CAPITAL+
   SMALL(LETTER(A AH AI AIN BRA CHA DHA E EHCHA EHKA EHPA EHTA EHTSA EIN GHA HA HYA I KA KHA KYA LA
   MA NA O OIN PA SA SHA TA TSA TSHA U WA ZA ZHA))) OSMANYA(DIGIT(EIGHT FIVE FOUR NINE ONE SEVEN
   SIX THREE TWO ZERO) LETTER(A AA ALEF BA CAYN DEEL DHA E EE FA GA HA I JA KAAF KHA LAAN MIIN NUUN
   O OO QAAF RA SA SHIIN TA U WAW XA YA)) OTTOMAN(SIYAQ(MARRATAN ALTERNATE(NUMBER(EIGHT FIVE NINE
   SEVEN THREE FOUR+SIX(.HUNDRED) TEN+TWO(.THOUSAND))) FRACTION(ONE(HALF SIXTH)) NUMBER(EIGHT+FIVE+
   FOUR+NINE+ONE+SEVEN+SIX+THREE+TWO(.HUNDRED THOUSAND) EIGHTY+FIFTY+FORTY+NINETY+SEVENTY+SIXTY+
   TEN+THIRTY+TWENTY(.THOUSAND)))) OUTLINED(BLACK+WHITE(STAR) GREEK+LATIN(CROSS)) OVERLAPPING(
   BLACK(SQUARES) WHITE(SQUARES AND(BLACK(SQUARES)))) PADDING+REPLACEMENT(CHARACTER) PAGE(.FACING(
   UP) WITH(CURL CIRCLED(TEXT))) PAHAWH(HMONG(CLAN(SIGN(FAJ HAM HAWJ KHAB KOO KWM LAUJ LIS MUAS
   PHAB THOJ TSAB TSHEEJ TSWB VAJ VWJ XYOOJ YAJ YEEG)) CONSONANT(AU CAU CHAU HAU HLAU HNAU LAU MAU
   NAU NCHAU NKAU NLAU NTHAU NTSAU PLHAU QHAU RAU VAU XAU YAU) DIGIT(EIGHT FIVE FOUR NINE ONE SEVEN
   SIX THREE TWO ZERO) MARK(CIM(HOM KES KHAV SO SUAM TAUM TUB)) NUMBER(HUNDREDS MILLIONS TENS
   TRILLIONS HUNDRED(MILLIONS) TEN(BILLIONS THOUSANDS)) SIGN(AV HLI HNUB LOS MUS NQIG NTUJ TAU XAUS
   XIAB XYOO CIM(CHEEM CUAM(TSHOOJ) HAIS(LUS(NTOG(NTOG))) NRES(TOS) PUB(DAWB) TSOV(ROG) TXWV(
   .CHWV)) IB(YAM) MEEJ(SUAB TSEEB) THIRD-STAGE(HLI) TXHEEJ(CEEV) VOS(FEEM LUB NRUA SEEV THIAB THOM
   TSHAB(CEEB)) XYEEM(FAIB NTXIV RHO TOV) ZWJ(THAJ)) VOWEL(KAAB KAAV KAB KAIB KAIV KAUB KAUV KAV
   KAWB KAWV KEB KEEB KEEV KEV KIAB KIAV KIB KIV KOB KOOB KOOV KOV KUAB KUAV KUB KUV KWB KWV)))
   PALM(BRANCH TREE DOWN+UP(HAND)) PALMS(UP(TOGETHER)) PALMYRENE(LEFT-POINTING+RIGHT-POINTING(
   FLEURON) LETTER(ALEPH AYIN BETH DALETH GIMEL HE HETH KAPH LAMEDH MEM NUN PE QOPH RESH SADHE
   SAMEKH SHIN TAW TETH WAW YODH ZAYIN FINAL(NUN)) NUMBER(FIVE FOUR ONE TEN THREE TWENTY TWO))
   PARAGRAPH+RECORD+UNIT(SEPARATOR) PARALLEL(TO WITH(HORIZONTAL(STROKE) TILDE(OPERATOR)))
   PARENTHESIZED(DIGIT(EIGHT FIVE FOUR NINE ONE SEVEN SIX THREE TWO) HANGUL(CHIEUCH+HIEUH+IEUNG+
   KHIEUKH+KIYEOK+MIEUM+NIEUN+PHIEUPH+PIEUP+RIEUL+SIOS+THIEUTH+TIKEUT(.A) CIEUC(.A U)) IDEOGRAPH(
   ALLIANCE CALL CONGRATULATION EARTH EIGHT ENTERPRISE FESTIVAL FINANCIAL FIRE FIVE FOUR HAVE LABOR
   METAL MOON NAME NINE ONE REACH REPRESENT RESOURCE REST SELF SEVEN SIX SOCIETY SPECIAL STOCK
   STUDY SUN SUPERVISE TEN THREE TWO WATER WOOD) KOREAN(CHARACTER(OJEON O(HU))) LATIN(CAPITAL+
   SMALL(LETTER(A B C D E F G H I J K L M N O P Q R S T U V W X Y Z))) NUMBER(EIGHTEEN ELEVEN
   FIFTEEN FOURTEEN NINETEEN SEVENTEEN SIXTEEN TEN THIRTEEN TWELVE TWENTY)) PART(ALTERNATION(MARK))
   PARTIAL(DIFFERENTIAL LINE(BACKWARD DOWN FORWARD UP)) PARTIALLY-RECYCLED+RECYCLED(PAPER(SYMBOL))
   PARTY(POPPER) PASSENGER(SHIP) PASSPORT(CONTROL) PAU(CIN(HAU(GLOTTAL(STOP(.FINAL VARIANT))
   LETTER(A BA CA CHA DA E FA GA HA I IA KA KHA LA MA NA NGA O PA PHA RA SA TA THA U UA VA ZA
   FINAL(K L M N NG P T W Y)) LOW-FALLING+RISING(TONE(.FINAL LONG(.FINAL))) MID-LEVEL(TONE(.FINAL
   LONG(FINAL))) SANDHI(GLOTTAL(STOP(.FINAL)) TONE(.FINAL LONG(.FINAL)))))) PAW(PRINTS) PEN(OVER(
   STAMPED(ENVELOPE))) PEOPLE(HUGGING) PER(SIGN MILLE(SIGN) TEN(THOUSAND(SIGN))) PERFORMING(ARTS)
   PERMANENT(PAPER(SIGN)) PERPENDICULAR(.WITH(S)) PERSON(CLIMBING FROWNING BOWING(DEEPLY) DOING(
   CARTWHEEL) IN(LOTUS(POSITION) STEAMY(ROOM)) RAISING(BOTH(HANDS(IN(CELEBRATION)))) WITH(BALL
   CROWN HEADSCARF BLOND(HAIR) FOLDED(HANDS) POUTING(FACE))) PERSONAL(COMPUTER) PETRI(DISH)
   PHAGS-PA(DOUBLE+SINGLE(HEAD(MARK)) LETTER(A BA CA CANDRABINDU CHA DA DDA DZA E EE FA GA GGA HA I
   JA KA KHA LA MA NA NGA NNA NYA O PA PHA QA RA SA SHA TA THA TSA TSHA TTA TTHA U WA XA YA ZA ZHA
   ALTERNATE(YA) ASPIRATED(FA) SMALL(A) VOICED(HA) VOICELESS(SHA)) MARK(SHAD DOUBLE(SHAD))
   SUBJOINED(LETTER(RA WA YA)) SUPERFIXED(LETTER(RA))) PHAISTOS(DISC(SIGN(ARROW BEE BEEHIVE
   BOOMERANG BOW CAPTIVE CAT CHILD CLUB COLUMN COMB DOLIUM DOVE EAGLE FLUTE GAUNTLET GRATER HELMET
   HIDE HORN LID LILY MANACLES MATTOCK PAPYRUS PEDESTRIAN RAM ROSETTE SAW SHIELD SHIP SLING
   STRAINER TIARA TUNNY VINE WOMAN BULLS(LEG) CARPENTRY(PLANE) COMBINING(OBLIQUE(STROKE)) OX(BACK)
   PLANE(TREE) PLUMED+TATTOOED(HEAD) SMALL(AXE) WAVY(BAND)))) PHILIPPINE(DOUBLE+SINGLE(
   PUNCTUATION)) PHOENICIAN(LETTER(AIN ALF BET DELT GAML HE HET KAF LAMD MEM NUN PE QOF ROSH SADE
   SEMK SHIN TAU TET WAU YOD ZAI) NUMBER(TEN THREE TWENTY TWO ONE(.HUNDRED)) WORD(SEPARATOR)) PIG(
   .FACE NOSE) PILE(OF(POO)) PINCHED(FINGERS) PINCHING+VICTORY+WRITING(HAND) PINE(DECORATION)
   PITCHFORK(.WITH(TEE(TOP))) PLACE(OF(WORSHIP INTEREST(SIGN))) PLANCK(CONSTANT(.OVER(TWO(PI))))
   PLAYGROUND(SLIDE) PLAYING(CARD(BACK FOOL TRUMP-1~9 TRUMP-10~21 ACE+EIGHT+FIVE+FOUR+JACK+KING+
   KNIGHT+NINE+QUEEN+SEVEN+SIX+TEN+THREE+TWO(OF(CLUBS DIAMONDS HEARTS SPADES)) BLACK+RED+WHITE(
   JOKER))) PLUS(SIGN(.ABOVE(EQUALS(SIGN)) IN(TRIANGLE LEFT+RIGHT(HALF(CIRCLE))) WITH(BLACK(
   TRIANGLE) CIRCUMFLEX(ACCENT(ABOVE)) DOT(BELOW) SMALL(CIRCLE(ABOVE)) SUBSCRIPT(TWO) TILDE(ABOVE
   BELOW)))) PLUTO(.FORM(FIVE FOUR THREE TWO)) POCKET(CALCULATOR) POLICE(CAR OFFICER CARS(
   REVOLVING(LIGHT))) POP(DIRECTIONAL(FORMATTING ISOLATE)) PORTABLE(STEREO) POSITION(INDICATOR)
   POSTAL(HORN MARK(.FACE)) POT(OF(FOOD)) POTTED(PLANT) POULTRY(LEG) POURING(LIQUID) POWER(SYMBOL
   ON+ON-OFF+SLEEP(SYMBOL)) PRAYER(BEADS) PRECEDES+SUCCEEDS(.ABOVE(ALMOST(EQUAL(TO)) EQUALS(SIGN)
   NOT(ALMOST(EQUAL(TO)) EQUAL(TO)) SINGLE-LINE(EQUALS(SIGN) NOT(EQUAL(TO)))) BUT(NOT(EQUIVALENT(
   TO))) OR(EQUAL+EQUIVALENT(TO)) UNDER(RELATION)) PREGNANT(MAN PERSON WOMAN) PRESCRIPTION(TAKE)
   PRESENTATION(FORM(FOR(VERTICAL(COLON COMMA SEMICOLON EM+EN(DASH) EXCLAMATION+QUESTION(MARK)
   HORIZONTAL(ELLIPSIS) IDEOGRAPHIC(COMMA FULL(STOP)) LEFT(PARENTHESIS ANGLE+CORNER+CURLY+SQUARE(
   BRACKET) BLACK(LENTICULAR(BRACKET)) DOUBLE(ANGLE(BRACKET)) TORTOISE(SHELL(BRACKET)) WHITE(
   CORNER+LENTICULAR(BRACKET))) LOW(LINE) RIGHT(PARENTHESIS ANGLE+CORNER+CURLY+SQUARE(BRACKET)
   BLACK(LENTICULAR(BRACKET)) DOUBLE(ANGLE(BRACKET)) TORTOISE(SHELL(BRACKET)) WHITE(CORNER(BRACKET)
   LENTICULAR(BRACKET BRAKCET))) TWO(DOT(LEADER)) WAVY(LOW(LINE)))))) PREVIOUS(PAGE) PRINTER(.ICON)
   PRIVACY(MESSAGE) PRIVATE(USE-1~2 USE(ONE TWO)) PROBING(CANE) PROPERTY(LINE) PSALTER(PAHLAVI(
   FOUR(DOTS(WITH(CROSS DOT))) LETTER(ALEPH BETH DALETH GIMEL HE HETH KAPH LAMEDH MEM-QOPH NUN PE
   SADHE SAMEKH SHIN TAW WAW-AYIN-RESH YODH ZAYIN) NUMBER(FOUR TEN THREE TWENTY TWO ONE(.HUNDRED))
   SECTION(MARK) TURNED(SECTION(MARK)))) PUBLIC(ADDRESS(LOUDSPEAKER)) PUNCTUS(ELEVATUS(MARK)) PUT(
   LITTER(IN(ITS(PLACE(SYMBOL))))) QUADRANT(LOWER(LEFT RIGHT) UPPER(LEFT(.AND(LOWER(RIGHT LEFT(AND(
   LOWER(RIGHT)))) UPPER(RIGHT(AND(LOWER(LEFT RIGHT)))))) RIGHT(.AND(LOWER(LEFT(.AND(LOWER(
   RIGHT)))))))) QUADRUPLE(PRIME INTEGRAL(OPERATOR)) QUATERNION(INTEGRAL(OPERATOR)) QUESTION(MARK
   EXCLAMATION(MARK)) RACING(CAR MOTORCYCLE) RADICAL(SYMBOL(BOTTOM)) RADIO(.BUTTON) RAILWAY(CAR
   TRACK) RAISED(COMMA DOT FIST SQUARE BACK(OF(HAND)) DOTTED(INTERPOLATION(MARKER)) HAND(.WITH(
   FINGERS(SPLAYED) PART(BETWEEN(MIDDLE(AND(RING(FINGERS))))))) INTERPOLATION(MARKER) MC+MD+MR(
   SIGN)) RECREATIONAL(VEHICLE) RECYCLING(SYMBOL(FOR(GENERIC(MATERIALS) TYPE-1~7(PLASTICS)))) RED(
   APPLE GIFT(ENVELOPE)) REGIONAL(INDICATOR(SYMBOL(LETTER(A B C D E F G H I J K L M N O P Q R S T U
   V W X Y Z)))) REJANG(VIRAMA CONSONANT(SIGN(H N NG R)) LETTER(A BA CA DA GA HA JA KA LA MA MBA NA
   NDA NGA NGGA NYA NYJA PA RA SA TA WA YA) SECTION(MARK) VOWEL(SIGN(AI AU E EA EU I O U)))
   REMINDER(RIBBON) RESTRICTED(LEFT(ENTRY-1~2)) RETURN(LEFT RIGHT SYMBOL) REVERSE(INDEX CHECKER(
   BOARD) LIGHT(FOUR(POINTED(PINWHEEL(STAR)))) LINE(FEED) SOLIDUS(.OPERATOR PRECEDING(SUBSET) WITH(
   HORIZONTAL(STROKE))) TILDE(OPERATOR(ABOVE(LEFTWARDS+RIGHTWARDS(ARROW))))) REVERSED(COMMA PRIME
   SEMICOLON ANGLE(.WITH(UNDERBAR)) DOUBLE(PRIME(.QUOTATION(MARK)) STROKE(NOT(SIGN))) EMPTY(SET)
   FORKED(PARAGRAPHOS) HAND(WITH(MIDDLE(FINGER(EXTENDED)))) NOT+PILCROW(SIGN) QUESTION(MARK)
   RAISED(HAND(WITH(FINGERS(SPLAYED)))) RIGHT(ANGLE) ROTATED(FLORAL(HEART(BULLET))) SANS-SERIF(
   CAPITAL(L)) THUMBS(DOWN+UP(SIGN)) TILDE(.EQUALS) TRIPLE(PRIME) VICTORY(HAND)) REVOLVING(HEARTS)
   RIBBON(.ARROW(DOWN+UP(LEFT RIGHT) LEFT+RIGHT(DOWN UP))) RICE(BALL CRACKER) RIGHT(CEILING FLOOR
   TACK AND(LOWER+UPPER(ONE(EIGHTH(BLOCK)))) ANGER+SPEECH+THOUGHT(BUBBLE) ANGLE(.BRACKET(.WITH(
   DOT)) DOTTED(SUBSTITUTION(MARKER)) SUBSTITUTION(MARKER) VARIANT(WITH(SQUARE)) WITH(ARC
   DOWNWARDS(ZIGZAG(ARROW)))) ARC(GREATER-THAN(BRACKET)) ARROW(WITH(CIRCLED(PLUS) SMALL(CIRCLE)))
   BLACK(LENTICULAR(BRACKET) TORTOISE(SHELL(BRACKET))) CORNER+SUBSTITUTION+TRANSPOSITION(BRACKET)
   CURLY(BRACKET(.LOWER+UPPER(HOOK) MIDDLE(PIECE))) DOTTED(SUBSTITUTION(BRACKET)) DOUBLE(
   PARENTHESIS ANGLE(BRACKET) ARROW(WITH(ROUNDED(HEAD))) QUOTATION(MARK) WIGGLY(FENCE)) FISH(TAIL)
   FIVE+SEVEN(EIGHTHS(BLOCK)) HALF(BLOCK FOLDER BLACK(CIRCLE STAR) MEDIUM(SHADE) RUNNING(MAN))
   HAND(TELEPHONE(RECEIVER)) LOW(PARAPHRASE(BRACKET)) NORMAL(FACTOR(SEMIDIRECT(PRODUCT))) ONE(
   EIGHTH+QUARTER(BLOCK)) OPEN(SQUARED(DOT)) OUTER(JOIN) PARENTHESIS(.EXTENSION LOWER+UPPER(HOOK))
   RAISED(OMISSION(BRACKET)) S-SHAPED(BAG(DELIMITER)) SEMIDIRECT(PRODUCT) SIDEWAYS(U(BRACKET))
   SINGLE(QUOTATION(MARK)) SPEAKER(.WITH(ONE(SOUND(WAVE)) THREE(SOUND(WAVES)))) SQUARE(BRACKET(
   .EXTENSION LOWER+UPPER(CORNER) WITH(QUILL STROKE UNDERBAR DOUBLE(STROKE) TICK(IN(BOTTOM+TOP(
   CORNER)))))) THIRD(WHITE(RIGHT(POINTING(INDEX)))) THREE(EIGHTHS+QUARTERS(BLOCK)) TORTOISE(SHELL(
   BRACKET)) TRIANGLE(.ABOVE(LEFT(TRIANGLE))) TRIANGULAR(ONE(QUARTER(BLOCK))) VERTICAL(BAR(WITH(
   QUILL)) BOX(LINE)) WHITE(PARENTHESIS CORNER+CURLY+LENTICULAR+SQUARE(BRACKET) TORTOISE(SHELL(
   BRACKET))) WIGGLY(FENCE)) RIGHT-SIDE(ARC(CLOCKWISE(ARROW))) RIGHTHAND(INTERIOR(PRODUCT))
   RIGHTWARDS(ARROW-TAIL HAND ROCKET ARROW(.ABOVE(ALMOST(EQUAL(TO)) REVERSE(ALMOST(EQUAL(TO))
   TILDE(OPERATOR)) SHORT(LEFTWARDS(ARROW)) TILDE(OPERATOR)) AND(UPPER(AND(LOWER(ONE(EIGHTH(
   BLOCK)))))) FROM(BAR(.TO(BLACK(DIAMOND)))) OVER(LEFTWARDS(ARROW)) THROUGH(GREATER-THAN SUPERSET
   X) TO(BAR BLACK(DIAMOND)) WITH(HOOK LOOP STROKE CORNER(DOWNWARDS) DOTTED(STEM) DOUBLE(VERTICAL(
   STROKE)) EQUILATERAL(ARROWHEAD) LARGE+MEDIUM(TRIANGLE(ARROWHEAD)) NOTCHED(TAIL) PLUS(BELOW)
   SMALL(EQUILATERAL+TRIANGLE(ARROWHEAD)) TAIL(.WITH(DOUBLE(VERTICAL(STROKE)) VERTICAL(STROKE)))
   TIP(DOWNWARDS UPWARDS) VERTICAL(STROKE))) BACK-TILTED+FRONT-TILTED(SHADOWED(WHITE(ARROW)))
   BLACK(ARROW CIRCLED(WHITE(ARROW))) BOTTOM+TOP(SHADED(WHITE(ARROW))) COMPRESSED+DASHED+
   FINGER-POST+OPEN-HEADED+QUADRUPLE+SANS-SERIF+SQUARED+SQUIGGLE+WAVE(ARROW) DOUBLE(ARROW-TAIL
   ARROW(.FROM(BAR) WITH(STROKE VERTICAL(STROKE))) DASH(ARROW)) HARPOON(OVER(LEFTWARDS(HARPOON))
   WITH(BARB(DOWNWARDS UPWARDS DOWN(ABOVE(LEFTWARDS(HARPOON(WITH(BARB(DOWN))))) BELOW(LONG(DASH))
   FROM+TO(BAR)) UP(ABOVE(LEFTWARDS(HARPOON(WITH(BARB(UP)))) LONG(DASH) RIGHTWARDS(HARPOON(WITH(
   BARB(DOWN))))) FROM+TO(BAR))))) HEAVY(ARROW COMPRESSED(ARROW)) LEFT-SHADED+RIGHT-SHADED(WHITE(
   ARROW)) PAIRED(ARROWS) TRIANGLE(ARROWHEAD) TRIANGLE-HEADED(ARROW(.OVER(LEFTWARDS(
   TRIANGLE-HEADED(ARROW))) TO(BAR) WITH(BOLD+HEAVY+MEDIUM+NARROW(SHAFT) DOUBLE(HORIZONTAL+
   VERTICAL(STROKE)) LONG(TIP(DOWNWARDS UPWARDS)) VERY(HEAVY(SHAFT)))) DASHED(ARROW) PAIRED(
   ARROWS)) TRIPLE(ARROW DASH(ARROW)) TWO(HEADED(ARROW)) TWO-HEADED(ARROW(FROM(BAR) WITH(DOUBLE(
   VERTICAL(STROKE)) TAIL(.WITH(DOUBLE(VERTICAL(STROKE)) VERTICAL(STROKE))) TRIANGLE(ARROWHEADS)
   VERTICAL(STROKE))) TRIPLE(DASH(ARROW))) WHITE(ARROW(.FROM(WALL) WITHIN(TRIANGLE(ARROWHEAD)))))
   RING(.ABOVE BUOY OPERATOR POINT EQUAL(TO) IN(EQUAL(TO))) RINGED(PLANET) RISING(DIAGONAL(
   CROSSING(FALLING(DIAGONAL) SOUTH(EAST(ARROW))))) ROASTED(SWEET(POTATO)) ROLL(OF(PAPER))
   ROLLED-UP(NEWSPAPER) ROLLER(COASTER SKATE) ROLLING(ON(THE(FLOOR(LAUGHING)))) ROMAN(AS+CENTURIAL+
   DENARIUS+DUPONDIUS+QUINARIUS+SEMUNCIA+SESTERTIUS+SEXTANS+SEXTULA+SILIQUA+UNCIA(SIGN) DIMIDIA(
   SEXTULA(SIGN)) NUMERAL(EIGHT ELEVEN FOUR NINE SEVEN THREE TWELVE TWO FIFTY(.THOUSAND EARLY(
   FORM)) FIVE(.HUNDRED THOUSAND) ONE(.HUNDRED(.THOUSAND) THOUSAND(.C(D))) REVERSED(ONE(HUNDRED))
   SIX(.LATE(FORM)) TEN(.THOUSAND))) ROTATED(CAPITAL(Q) FLORAL(HEART(BULLET)) HEAVY(BLACK(HEART(
   BULLET))) LIGHT(FOUR(POINTED(BLACK(CUSP)))) WHITE(FOUR(POINTED(CUSP)))) ROUND(PUSHPIN TARGET)
   ROUNDED(SYMBOL(FOR(CAI FU LU SHOU SHUANGXI XI))) RUMI(DIGIT(EIGHT FIVE FOUR NINE ONE SEVEN SIX
   THREE TWO) FRACTION(ONE(HALF QUARTER THIRD) TWO(THIRDS)) NUMBER(EIGHTY FIFTY FORTY NINETY
   SEVENTY SIXTY TEN THIRTY TWENTY EIGHT+FIVE+FOUR+NINE+ONE+SEVEN+SIX+THREE+TWO(HUNDRED))) RUNIC(
   ARLAUG+BELGTHOR+TVIMADUR(SYMBOL) CROSS+MULTIPLE+SINGLE(PUNCTUATION) LETTER(AESC C CALC CEALC CEN
   CWEORTH D DOTTED-L DOTTED-N DOTTED-P E EAR ENG ETH G GAR GER ICELANDIC-YR ING INGWAZ IOR K KAUNA
   LONG-BRANCH-YR O OE ON OO OPEN-P Q SH SHORT-TWIG-YR STAN V W X Y YR Z AC+ANSUZ+SHORT-TWIG-AR(A)
   ALGIZ(EOLHX) BERKANAN(BEORC(BJARKAN(B))) DAGAZ(DAEG(D)) EHWAZ(EH(E)) FEHU(FEOH(FE(F))) FRANKS(
   CASKET(AC AESC EH IS OS)) GEBO(GYFU(G)) HAEGL+HAGLAZ+LONG-BRANCH-HAGALL+SHORT-TWIG-HAGALL(H)
   ISAZ(IS(ISS(I))) IWAZ(EOH) JERAN(J) KAUN(K) LAUKAZ(LAGU(LOGR(L))) LONG-BRANCH-AR(AE)
   LONG-BRANCH-MADR+SHORT-TWIG-MADR(M) LONG-BRANCH-OSS+OS+SHORT-TWIG-OSS(O) MANNAZ(MAN(M)) NAUDIZ(
   NYD(NAUD(N))) OTHALAN(ETHEL(O)) PERTHO(PEORTH(P)) RAIDO(RAD(REID(R))) SHORT-TWIG-BJARKAN(B)
   SHORT-TWIG-NAUD(N) SHORT-TWIG-SOL+SOWILO(S) SHORT-TWIG-TYR(T) SIGEL(LONG-BRANCH-SOL(S))
   THURISAZ(THURS(THORN)) TIWAZ(TIR(TYR(T))) URUZ(UR(U)) WUNJO(WYNN(W)))) RUNNING(SHIRT(WITH(
   SASH))) RUSSIAN(ASTROLOGICAL(SYMBOL(BINOVILE NOVILE QUINTILE SENTAGON TREDECILE VIGINTILE))) S(
   IN(TRIANGLE)) SAFETY(PIN VEST) SAKE(BOTTLE(AND(CUP))) SALT(SHAKER) SAMARITAN(ABBREVIATION(MARK)
   LETTER(ALAF BAA BIT DALAT FI GAMAN IN IT IY KAAF LABAT MIM NUN QUF RISH SHAN SINGAAT TAAF TIT
   TSAADIY YUT ZEN) MARK(DAGESH IN IN-ALAF NEQUDAA OCCLUSION EPENTHETIC(YUT)) MODIFIER(LETTER(I
   EPENTHETIC(YUT) SHORT(A))) PUNCTUATION(AFSAAQ ANGED ANNAAU ARKAANU ATMAAU BAU NEQUDAA QITSA
   SHIYYAALAA TURU ZAEF ZIQAA MELODIC(QITSA) SOF(MASHFAAT)) VOWEL(SIGN(A AA E I O SUKUN U LONG(A AA
   E I U) OVERLONG(A AA) SHORT(A)))) SANS-SERIF(HEAVY(DOUBLE(COMMA(QUOTATION(MARK(ORNAMENT)))
   TURNED(COMMA(QUOTATION(MARK(ORNAMENT))))) LOW(DOUBLE(COMMA(QUOTATION(MARK(ORNAMENT))))))
   INTERROBANG(ORNAMENT)) SATELLITE(.ANTENNA) SAURASHTRA(DANDA CONSONANT(SIGN(HAARU)) DIGIT(EIGHT
   FIVE FOUR NINE ONE SEVEN SIX THREE TWO ZERO) DOUBLE(DANDA) LETTER(A AA AI AU BA BHA CA CHA DA
   DDA DDHA DHA E EE GA GHA HA I II JA JHA KA KHA LA LLA MA NA NGA NNA NYA O OO PA PHA RA SA SHA
   SSA TA THA TTA TTHA U UU VA YA VOCALIC(L LL R RR)) SIGN(ANUSVARA CANDRABINDU VIRAMA VISARGA)
   VOWEL(SIGN(AA AI AU E EE I II O OO U UU VOCALIC(L LL R RR)))) SCHOOL(.SATCHEL) SCRIPT(CAPITAL(B
   E F H I L M P R) LIGATURE(ET(ORNAMENT)) SMALL(E G L O)) SECOND+THIRD(PLACE(MEDAL)) SEGMENTED(
   DIGIT(EIGHT FIVE FOUR NINE ONE SEVEN SIX THREE TWO ZERO)) SEMIDIRECT(PRODUCT(WITH(BOTTOM(
   CLOSED)))) SERIOUS(FACE(WITH(SYMBOLS(COVERING(MOUTH))))) SESAME(DOT) SET(MINUS TRANSMIT(STATE))
   SEWING(NEEDLE) SHADOWED(WHITE(CIRCLE STAR LATIN(CROSS))) SHALLOW(PAN(OF(FOOD))) SHARADA(DANDA
   EKAM HEADSTROKE OM SEPARATOR ABBREVIATION+CONTINUATION(SIGN) DIGIT(EIGHT FIVE FOUR NINE ONE
   SEVEN SIX THREE TWO ZERO) DOUBLE(DANDA) EXTRA(SHORT(VOWEL(MARK))) LETTER(A AA AI AU BA BHA CA
   CHA DA DDA DDHA DHA E GA GHA HA I II JA JHA KA KHA LA LLA MA NA NGA NNA NYA O PA PHA RA SA SHA
   SSA TA THA TTA TTHA U UU VA YA VOCALIC(L LL R RR)) SANDHI+SUTRA(MARK) SECTION(MARK-1~2) SIGN(
   ANUSVARA AVAGRAHA CANDRABINDU JIHVAMULIYA NUKTA SIDDHAM UPADHMANIYA VIRAMA VISARGA INVERTED(
   CANDRABINDU)) VOWEL(MODIFIER(MARK) SIGN(AA AI AU E I II O U UU PRISHTHAMATRA(E) VOCALIC(L LL R
   RR)))) SHAVED(ICE) SHAVIAN(LETTER(ADO AGE AH AIR ARE ARRAY ASH AWE BIB CHURCH DEAD EAR EAT EGG
   ERR FEE GAG HA-HA HUNG IAN ICE IF JUDGE KICK LOLL MEASURE MIME NUN OAK OIL ON OOZE OR OUT PEEP
   ROAR SO SURE THEY THIGH TOT UP VOW WOE WOOL YEA YEW ZOO)) SHIFT(IN OUT) SHINTO(SHRINE) SHOCKED(
   FACE(WITH(EXPLODING(HEAD)))) SHOPPING(BAGS TROLLEY) SHORT(BACKSLANTED(SOUTH(ARROW)) BENT(ARROW(
   POINTING(DOWNWARDS(THEN(NORTH(EAST)))))) DOWN(TACK(.WITH(OVERBAR))) LEFT(TACK) RIGHTWARDS(ARROW(
   ABOVE(LEFTWARDS(ARROW)))) SLANTED(NORTH(ARROW)) UP(TACK(.ABOVE(SHORT(DOWN(TACK))) WITH(
   UNDERBAR)))) SHORTHAND(FORMAT(CONTINUING+LETTER(OVERLAP) DOWN+UP(STEP))) SHOULDERED(OPEN(BOX))
   SIDDHAM(DANDA DOUBLE(DANDA) END(OF(TEXT(MARK))) LETTER(A AA AI AU BA BHA CA CHA DA DDA DDHA DHA
   E GA GHA HA I II JA JHA KA KHA LA MA NA NGA NNA NYA O PA PHA RA SA SHA SSA TA THA TTA TTHA U UU
   VA YA ALTERNATE(U) THREE-CIRCLE(ALTERNATE(I)) TWO-CIRCLE(ALTERNATE(I II)) VOCALIC(L LL R RR))
   REPETITION(MARK-1~3) SECTION(MARK(DOUBLE(RING(.WITH(RAYS))) WITH(CIRCLES(AND(RAYS FOUR+TWO(
   ENCLOSURES))) DOUBLE+QUADRUPLE+SEPTUPLE+TRIPLE(CRESCENTS) RAYS(AND(DOTTED(CRESCENTS DOUBLE+
   TRIPLE(CRESCENTS)))) TRIDENT(AND(DOTTED(CRESCENTS) U-SHAPED(ORNAMENTS)))))) SEPARATOR(BAR DOT)
   SIGN(ANUSVARA CANDRABINDU NUKTA SIDDHAM VIRAMA VISARGA) VOWEL(SIGN(AA AI AU E I II O U UU
   ALTERNATE(U UU) VOCALIC(R RR)))) SIDEWAYS(BLACK+WHITE(DOWN+LEFT+RIGHT+UP(POINTING(INDEX))))
   SIGN(OF(THE(HORNS))) SIGNWRITING(COLON COMMA EARS EXCITEMENT FINGER HAIR NECK PARENTHESIS
   SEMICOLON AIR(BLOW+SUCK(SMALL(ROTATIONS)) BLOWING(OUT) SUCKING(IN)) BREATH(EXHALE INHALE) BRUSH+
   GRASP+RUB+STRIKE+TOUCH(BETWEEN MULTIPLE SINGLE) CHEEKS(NEUTRAL PUFFED SUCKED) DREAMY(EYEBROWS(
   DOWN+UP(NEUTRAL) NEUTRAL(DOWN UP))) DYNAMIC(FAST GRADUAL RELAXED SLOW TENSE ARROWHEAD(LARGE
   SMALL) EVERY(OTHER(TIME)) SIMULTANEOUS(.ALTERNATING)) EYE(WINK BLINK(MULTIPLE SINGLE)) EYEBROWS(
   STRAIGHT(DOWN NEUTRAL UP)) EYEGAZE-FLOORPLANE(CURVED STRAIGHT(.ALTERNATING DOUBLE))
   EYEGAZE-WALLPLANE(CIRCLING CURVED STRAIGHT(.ALTERNATING DOUBLE)) EYELASHES(DOWN FLUTTERING UP)
   EYES(CLOSED OPEN SQUEEZED HALF(CLOSED OPEN) WIDE(OPEN) WIDENING(MOVEMENT)) FACE(DIRECTION(
   POSITION(NOSE(FORWARD(TILTING) UP(OR(DOWN(.TILTING))))))) FILL(MODIFIER-2~6) FLICK(SEQUENTIAL
   LARGE+SMALL(MULTIPLE SINGLE)) FLOORPLANE+WALLPLANE(SHOULDER(HIP(MOVE))) FOREHEAD(CONTACT NEUTRAL
   WRINKLED) FULL(STOP) HAND-ANGLE(.INDEX(.MIDDLE(LITTLE RING) RING(LITTLE(.OUT)) THUMB(.IN OUT))
   LITTLE(UP INDEX(.THUMB(INDEX(THUMB(.OUT))))) MIDDLE(RING(LITTLE(.IN OUT))) RING(LITTLE DOWN(
   MIDDLE(THUMB(INDEX(CROSS)))))) HAND-CIRCLE(.INDEX(.BENT HINGE MIDDLE(.CROSSED LITTLE RING THUMB
   CROSS(LITTLE)) RING(LITTLE)) LITTLE(INDEX UP) MIDDLE(UP RING(LITTLE(.BENT))) RING(LITTLE))
   HAND-CLAW(.FOUR(FINGERS(CONJOINED)) INDEX(THUMB(CURVE(THUMB(INSIDE)))) MIDDLE(RING(LITTLE(
   CONJOINED(.SIDE)))) NO(THUMB) THUMB(FORWARD SIDE)) HAND-CUP(.FIVE(FINGERS(SPREAD(.OPEN))) INDEX(
   .RING(LITTLE) THUMB(.OPEN)) MIDDLE(RING(LITTLE)) NO(THUMB) OPEN(.NO(THUMB) THUMB(FORWARD SIDE))
   THUMB(FORWARD SIDE)) HAND-CURLICUE(.OPEN INDEX+MIDDLE(RING(LITTLE(ON)))) HAND-FIST(.HEEL FOUR(
   FINGERS(CONJOINED(BENT))) INDEX(.CUPPED BENT(.OVER(MIDDLE)) HINGED(.LOW MIDDLE(UP(.THUMB(
   SIDE)))) MIDDLE(.LITTLE BENT(.THUMB(STRAIGHT)) CONJOINED(.CUPPED(.THUMB(FORWARD)) HINGED(.THUMB(
   SIDE)) INDEX+MIDDLE(BENT) THUMB(FORWARD SIDE(.BENT CONJOINED))) CROSS(LITTLE) CROSSED(.THUMB(
   SIDE)) HINGED(.SPREAD(THUMB(SIDE))) RAISED(KNUCKLES) RING(.BENT CONJOINED) STRAIGHT(THUMB(BENT))
   THUMB(.BENT CIRCLED CUPPED HINGED HOOKED ANGLED(.OUT) CONJOINED(HINGED)) UP(SPREAD(THUMB(
   FORWARD)))) RAISED(KNUCKLE) RING(LITTLE) THUMB(CIRCLE CURLICUE HOOK ANGLED(IN+OUT(MIDDLE(UP)))
   CIRCLED+CUPPED(MIDDLE(UP)) CURVE(THUMB(INSIDE UNDER)) FORWARD(INDEX(BENT STRAIGHT)) HOOKED(
   MIDDLE(HINGED UP)) SIDE(.BOTH(BENT) INDEX(BENT HINGE) THUMB(BENT CONJOINED DIAGONAL))) UP(
   MIDDLE(HINGED(.THUMB(CONJOINED SIDE))))) LITTLE(BENT THUMB UP DOWN(.OTHERS(CIRCLED) RIPPLE(
   CURVED STRAIGHT)) INDEX(.THUMB) RAISED(KNUCKLE) TOUCHES(THUMB)) MIDDLE(DOWN LITTLE BENT(OVER(
   INDEX)) RAISED(KNUCKLE) RING(LITTLE) THUMB(LITTLE ANGLED(INDEX(UP) OUT(INDEX(CROSSED UP)))
   CIRCLED(INDEX(HINGED UP)) CUPPED+HOOKED(INDEX(UP))) UP(.THUMB(SIDE))) RING(DOWN INDEX LITTLE
   THUMB UP MIDDLE(.CONJOINED RAISED(KNUCKLES)) RAISED(KNUCKLE)) THUMB(.FORWARD HEEL BETWEEN(INDEX(
   MIDDLE(.STRAIGHT)) MIDDLE(RING) RING(LITTLE)) OVER(FOUR(RAISED(KNUCKLES)) TWO(FINGERS)) SIDE(
   BENT CONJOINED DIAGONAL) UNDER(FOUR+THREE+TWO(FINGERS) INDEX(BENT) LITTLE(UP)))) HAND-FLAT(
   .BETWEEN(PALM(FACINGS)) FIVE(FINGERS(SPREAD(.BENT FOUR(BENT) HINGED(.NO(THUMB) THUMB(SIDE))
   THUMB(FORWARD)))) FOUR(FINGERS(.BENT HINGED CONJOINED(.SPLIT))) HEEL(.FIVE(FINGERS(SPREAD(.BENT
   FOUR(BENT)))) THUMB(SIDE)) SPLIT(LITTLE CENTRE(.THUMB(SIDE(.BENT))) INDEX(THUMB(SIDE))) THUMB(
   BENT FORWARD SIDE)) HAND-HINGE(.SMALL FIVE(FINGERS(SPREAD(OPEN))) FOUR(FINGERS(CONJOINED))
   INDEX(.HINGED MIDDLE(LITTLE RING(.CONJOINED)) RING(LITTLE) THUMB(.LARGE OPEN SIDE SMALL))
   LITTLE(.THUMB INDEX(.THUMB)) MIDDLE(.RING(LITTLE)) NO(THUMB) OPEN(.NO(THUMB) THUMB(FORWARD
   SIDE)) RING(.DOWN(INDEX(THUMB(HOOK(MIDDLE))))) THUMB(BETWEEN(MIDDLE(RING)) SIDE(.TOUCHING(
   INDEX)))) HAND-HOOK(.CURLICUE INDEX(RING(LITTLE(IN OUT UNDER))) MIDDLE(THUMB RING(LITTLE(
   CONJOINED(.IN OUT)))) RING(THUMB)) HAND-OVAL(.INDEX FIVE(FINGERS(SPREAD)) LITTLE(UP) NO(THUMB)
   RING(LITTLE) THUMB(FORWARD SIDE)) HEAD(.RIM MOVEMENT(CIRCLE) MOVEMENT-FLOORPLANE(CURVE STRAIGHT)
   MOVEMENT-WALLPLANE(CURVE STRAIGHT TILT)) LIMB(COMBINATION LENGTH-1~7) LIP(LOWER(OVER(UPPER))
   UPPER(OVER(LOWER))) LIPS(PRESSED(TOGETHER)) LOCATION(DEPTH HEIGHT TORSO WIDTH HEAD(NECK) LIMBS(
   DIGITS)) LOCATION-FLOORPLANE+LOCATION-WALLPLANE(SPACE) MOUTH(CORNERS CLOSED(CONTACT FORWARD
   NEUTRAL) FROWN+SMILE(.OPEN WRINKLED) KISS(.FORWARD WRINKLED) OPEN(CIRCLE FORWARD WRINKLED OVAL+
   RECTANGLE(.WRINKLED YAWN)) TENSE(.FORWARD SUCKED) WRINKLES(DOUBLE SINGLE)) MOVEMENT-DIAGONAL(
   AWAY+TOWARDS(LARGE LARGEST MEDIUM SMALL) BETWEEN(AWAY+TOWARDS(LARGE LARGEST MEDIUM SMALL)))
   MOVEMENT-FLOORPLANE(BEND CHECK CROSS JAW ARM(CIRCLE(HITTING(WALL(LARGE+MEDIUM+SMALL(DOUBLE
   SINGLE))))) BOX+CORNER+PEAKS+ZIGZAG(LARGE MEDIUM SMALL) CURVE(COMBINED LARGE LARGEST MEDIUM
   SMALL HITTING(CEILING+FLOOR(LARGE SMALL))) DOUBLE(STRAIGHT ALTERNATING(.WRIST(FLEX)) WRIST(
   FLEX)) FINGER(CONTACT CIRCLES(HITTING(WALL(DOUBLE SINGLE)))) HUMP(SMALL HITTING(CEILING(LARGE+
   SMALL(DOUBLE TRIPLE)) FLOOR(LARGE+SMALL(DOUBLE) TRIPLE(LARGE+SMALL(TRIPLE))))) LOOP(SMALL
   HITTING(CEILING+FLOOR(LARGE+SMALL(DOUBLE SINGLE)))) SHAKING(PARALLEL) SINGLE(STRAIGHT(LARGE
   LARGEST MEDIUM SMALL) WRIST(FLEX)) TRIPLE(ALTERNATING(MOVEMENT WRIST(FLEX)) STRAIGHT(MOVEMENT)
   WRIST(FLEX)) WAVE(LARGE SMALL SNAKE HITTING(CEILING+FLOOR(LARGE SMALL))) WRIST(CIRCLE(HITTING(
   WALL(DOUBLE SINGLE))))) MOVEMENT-HINGE(DOWN(SEQUENTIAL) SIDE(TO(SIDE(SCISSORS))) UP(SEQUENTIAL
   DOWN(LARGE SMALL ALTERNATING(LARGE SMALL)))) MOVEMENT-WALLPLANE(CROSS JAW SHAKING ARM(CIRCLE(
   MEDIUM+SMALL(DOUBLE SINGLE))) BEND+BOX+CHECK+PEAKS+ZIGZAG(LARGE MEDIUM SMALL) CORNER(LARGE
   MEDIUM ROTATION SMALL) CURVE(HALF-CIRCLE+QUARTER(LARGE LARGEST MEDIUM SMALL) HITTING(CHEST
   FRONT(WALL)) THEN(STRAIGHT) THREE-QUARTER(CIRCLE(MEDIUM SMALL))) CURVED(CROSS(MEDIUM SMALL))
   DOUBLE(STRAIGHT ALTERNATING(.WRIST(FLEX)) WRIST(FLEX)) FINGER(CONTACT CIRCLES(DOUBLE SINGLE))
   HUMP(LARGE MEDIUM SMALL HITTING(CHEST FRONT(WALL))) LOOP(LARGE MEDIUM HITTING(CHEST FRONT(WALL))
   SMALL(.DOUBLE)) SINGLE(STRAIGHT(LARGE LARGEST MEDIUM SMALL) WRIST(FLEX)) TRIPLE(ALTERNATING(
   .WRIST(FLEX)) STRAIGHT(MOVEMENT) WRIST(FLEX)) WAVE(CURVE(DOUBLE+TRIPLE(LARGE MEDIUM SMALL))
   DIAGONAL(PATH(LARGE MEDIUM SMALL)) HITTING(CHEST FRONT(WALL))) WRIST(CIRCLE(FRONT(DOUBLE
   SINGLE)))) NOSE(CONTACT NEUTRAL WIGGLES WRINKLES) ROTATION(MODIFIER-10~16 MODIFIER-2~9)
   ROTATION-FLOORPLANE(ALTERNATING+DOUBLE+SINGLE(.HITTING(CEILING FLOOR))) ROTATION-WALLPLANE(
   ALTERNATE ALTERNATING(HITTING(CHEST FRONT(WALL))) DOUBLE+SINGLE(.HITTING(CHEST FRONT(WALL))))
   SHOULDER(HIP(POSITIONS SPINE) TILTING(FROM(WAIST))) SQUEEZE(SEQUENTIAL FLICK(ALTERNATING) LARGE+
   SMALL(MULTIPLE SINGLE)) SURFACE(BETWEEN SYMBOLS) TEETH(.MOVEMENT BITE(LIPS) ON(LIPS+TONGUE(
   .MOVEMENT))) TENSE(CHEEKS(HIGH LOW MIDDLE)) TONGUE(CENTRE(INSIDE(MOUTH) STICKING(OUT)) INSIDE(
   MOUTH(RELAXED)) LICKING(LIPS) MOVES(AGAINST(CHEEK)) STICKING(OUT(FAR)) TIP(BETWEEN(LIPS)
   TOUCHING(INSIDE(MOUTH)))) TORSO-FLOORPLANE(TWISTING) TORSO-WALLPLANE(CURVED(BEND) STRAIGHT(
   STRETCH)) TRAVEL-FLOORPLANE(SHAKING ROTATION-FLOORPLANE+ROTATION-WALLPLANE(ALTERNATING DOUBLE
   SINGLE)) TRAVEL-WALLPLANE(SHAKING ARM(SPIRAL(DOUBLE SINGLE TRIPLE)) ROTATION-FLOORPLANE+
   ROTATION-WALLPLANE(ALTERNATING DOUBLE SINGLE)) UPPER(BODY(TILTING(FROM(HIP(JOINTS))))))
   SILHOUETTE(OF(JAPAN)) SIMILAR(ABOVE(GREATER-THAN+LESS-THAN(ABOVE(EQUALS(SIGN)))) MINUS(SIMILAR)
   OR(GREATER-THAN LESS-THAN)) SINE(WAVE) SINGLE(CHARACTER(INTRODUCER) GRAPHIC(CHARACTER(
   INTRODUCER)) HIGH-REVERSED-9+LOW-9(QUOTATION(MARK)) LEFT-POINTING+RIGHT-POINTING(ANGLE(
   QUOTATION(MARK))) SHIFT(THREE TWO)) SINHALA(ARCHAIC(DIGIT(EIGHT FIVE FOUR NINE ONE SEVEN SIX
   THREE TWO) NUMBER(EIGHTY FIFTY FORTY NINETY SEVENTY SIXTY TEN THIRTY TWENTY ONE(HUNDRED
   THOUSAND))) LETTER(AAYANNA AEEYANNA AEYANNA AIYANNA AUYANNA AYANNA EEYANNA EYANNA FAYANNA
   HAYANNA IIYANNA ILUUYANNA ILUYANNA IRUUYANNA IRUYANNA IYANNA MAYANNA OOYANNA OYANNA RAYANNA
   UUYANNA UYANNA VAYANNA YAYANNA ALPAPRAANA+MAHAAPRAANA(BAYANNA CAYANNA DAYANNA DDAYANNA GAYANNA
   JAYANNA KAYANNA PAYANNA TAYANNA TTAYANNA) AMBA(BAYANNA) DANTAJA+MUURDHAJA(LAYANNA NAYANNA
   SAYANNA) KANTAJA(NAASIKYAYA) SANYAKA(DAYANNA DDAYANNA GAYANNA JAYANNA) TAALUJA(NAASIKYAYA
   SAYANNA SANYOOGA(NAAKSIKYAYA))) LITH(DIGIT(EIGHT FIVE FOUR NINE ONE SEVEN SIX THREE TWO ZERO))
   PUNCTUATION(KUNDDALIYA) SIGN(AL-LAKUNA ANUSVARAYA CANDRABINDU VISARGAYA) VOWEL(SIGN(AELA-PILLA
   GAETTA-PILLA GAYANUKITTA DIGA(AEDA-PILLA GAETTA-PILLA GAYANUKITTA IS-PILLA KOMBUVA PAA-PILLA)
   KETTI(AEDA-PILLA IS-PILLA PAA-PILLA) KOMBU(DEKA) KOMBUVA(.HAA(AELA-PILLA GAYANUKITTA DIGA(
   AELA-PILLA)))))) SIX(PETALLED(BLACK(AND(WHITE(FLORETTE)))) POINTED(BLACK+PINWHEEL(STAR) STAR(
   WITH(MIDDLE(DOT))))) SIXTEEN(POINTED(ASTERISK)) SKI(AND(SKI(BOOT))) SKULL(.AND(CROSSBONES))
   SLANTED(EQUAL(TO(OR(GREATER-THAN+LESS-THAN(.WITH(DOT(INSIDE)))))) NORTH(ARROW(WITH(HOOKED(HEAD)
   HORIZONTAL(TAIL))))) SLEEPING(ACCOMMODATION FACE SYMBOL) SLEUTH(OR(SPY)) SLICE(OF(PIZZA))
   SLIGHTLY(FROWNING+SMILING(FACE)) SLOPING(LARGE(AND OR)) SLOT(MACHINE) SMALL(AIRPLANE AMPERSAND
   ASTERISK COLON COMMA HYPHEN-MINUS SEMICOLON TILDE BLUE+ORANGE(DIAMOND) COMMERCIAL(AT) CONTAINS(
   AS(MEMBER) WITH(OVERBAR VERTICAL(BAR(AT(END(OF(HORIZONTAL(STROKE)))))))) DOLLAR+EQUALS+
   GREATER-THAN+LESS-THAN+NUMBER+PERCENT+PLUS(SIGN) ELEMENT(OF(.WITH(OVERBAR VERTICAL(BAR(AT(END(
   OF(HORIZONTAL(STROKE))))))))) EM(DASH) EXCLAMATION+QUESTION(MARK) FULL(STOP) IDEOGRAPHIC(COMMA)
   LEFT+RIGHT(PARENTHESIS CURLY(BRACKET) TORTOISE(SHELL(BRACKET))) REVERSE(SOLIDUS) ROMAN(NUMERAL(
   EIGHT ELEVEN FIFTY FOUR NINE SEVEN SIX TEN THREE TWELVE TWO FIVE(.HUNDRED) ONE(.HUNDRED
   THOUSAND))) TWO(DOTS(OVER(ONE(DOT(PUNCTUATION))))) VEE(WITH(UNDERBAR))) SMILING(CAT(FACE(WITH(
   HEART-SHAPED(EYES) OPEN(MOUTH)))) FACE(WITH(HALO HORNS SUNGLASSES TEAR HEART-SHAPED(EYES) OPEN(
   MOUTH(.AND(COLD(SWEAT) SMILING+TIGHTLY-CLOSED(EYES)))) SMILING(EYES(.AND(HAND(COVERING(MOUTH))
   THREE(HEARTS))))))) SNOW(CAPPED(MOUNTAIN)) SNOWMAN(.WITHOUT(SNOW)) SOFT(HYPHEN ICE(CREAM) SHELL(
   FLOPPY(DISK))) SOGDIAN(COMBINING(CURVE+DOT+HOOK(ABOVE BELOW) LONG(HOOK(BELOW)) RESH+STROKE(
   BELOW) TWO(DOTS(ABOVE BELOW))) INDEPENDENT(SHIN) LETTER(ALEPH AYIN BETH FETH GIMEL HE HETH KAPH
   LAMEDH LESH MEM NUN PE RESH-AYIN SADHE SAMEKH SHIN TAW WAW YODH ZAYIN) NUMBER(TEN TWENTY ONE(
   .HUNDRED)) PUNCTUATION(CIRCLE(WITH(DOT)) HALF(CIRCLE(WITH(DOT))) TWO(CIRCLES(WITH(DOTS))
   VERTICAL(BARS(.WITH(DOTS)))))) SOLIDUS(.WITH(OVERBAR)) SOON(WITH(RIGHTWARDS(ARROW(ABOVE))))
   SORA(SOMPENG(DIGIT(EIGHT FIVE FOUR NINE ONE SEVEN SIX THREE TWO ZERO) LETTER(AH BAH CAH DAH EEH
   EH GAH HAH IH JAH KAH LAH MAE MAH NAH NGAH NYAH OH PAH RAH SAH TAH UH VAH YAH))) SOUND(
   RECORDING(COPYRIGHT)) SOUTH(EAST(ARROW(.AND(SOUTH(WEST(ARROW))) CROSSING(NORTH(EAST(ARROW))) TO(
   CORNER) WITH(HOOK)) BLACK+DOUBLE+SANS-SERIF+WHITE(ARROW) POINTING(BUD LEAF VINE(LEAF))
   TRIANGLE-HEADED(ARROW(.TO(BAR)))) WEST(ARROW(.AND(NORTH(WEST(ARROW))) WITH(HOOK)) BLACK+DOUBLE+
   SANS-SERIF+WHITE(ARROW) POINTING(BUD LEAF VINE(LEAF)) TRIANGLE-HEADED(ARROW(.TO(BAR)))))
   SOYOMBO(SUBJOINER CLUSTER-INITIAL(LETTER(LA RA SA SHA)) FINAL(CONSONANT(SIGN(-A B D G K L M N NG
   R S SH))) GEMINATION(MARK) HEAD(MARK(WITH(MOON(AND(SUN(.AND(FLAME TRIPLE(FLAME)))))))) LETTER(-A
   A BA BHA CA CHA DA DDA DDHA DHA DZA GA GHA HA JA JHA KA KHA KSSA LA MA NA NGA NNA NYA PA PHA RA
   SA SHA SSA TA THA TSA TSHA TTA TTHA VA YA ZA ZHA) MARK(PLUTA SHAD TSHEG DOUBLE(SHAD)) SIGN(
   ANUSVARA JIHVAMULIYA UPADHMANIYA VISARGA) TERMINAL(MARK-1~2) VOWEL(LENGTH(MARK) SIGN(AI AU E I O
   OE U UE VOCALIC(L R)))) SPEAKER(.WITH(CANCELLATION(STROKE) ONE(SOUND(WAVE)) THREE(SOUND(
   WAVES)))) SPEAKING(HEAD(IN(SILHOUETTE))) SPEECH+THOUGHT(BALLOON) SPHERICAL(ANGLE(.OPENING(LEFT
   UP))) SPIDER(.WEB) SPIRAL(SHELL CALENDAR+NOTE(PAD)) SPLASHING(SWEAT(SYMBOL)) SPOOL(OF(THREAD))
   SPORTS(MEDAL) SPOUTING(WHALE) SQUARE(AARU AM ANPEA APAATO ARUHUA AU BAARERU BAR BEETA BIRU
   BORUTO BQ BUSSYERU CAL CAP CC CD CO CORPORATION CUP DA DAASU DB DESI DJ DL DORU EEKAA ERG
   ESUKUUDO EV FM FOOT GAL GANMA GARON GB GHZ GIGA GINII GIRUDAA GPA GURAMU GURAMUTON GY HA HAITU
   HEKUTAARU HERUTU HG HON HOON HOORU HP HPA HUARADDO HUIITO HURAN HZ IN ININGU INTI IU KA KAIRI
   KARATTO KARORII KB KCAL KEESU KG KHZ KIRO KIROGURAMU KIROMEETORU KIROWATTO KK KL KOOPO KORUNA
   KPA KT KUROONE KURUZEIRO KV KW KYURII LM LN LOG LOZENGE LX MA MAHHA MAIKURO MAIRU MANSYON MARUKU
   MEETORU MEGA MEGATON MG MHZ MIKURON MIL MIRI MIRIBAARU ML MOL MPA MS NA NANO NF NM NOTTO NS NV
   NW ONSU OOMU OV PAASENTO PAATU PC PEEZI PENIHI PENSU PESO PF PH PIASUTORU PIKO PIKURU PM POINTO
   PONDO PPM PR PS PV PW REMU RENTOGEN RIRA RITTORU ROOT RUPII RUUBURU SAIKURU SANTIIMU SENTI SENTO
   SIRINGU SR SV TARGET THZ TON UON WATTO WB YAADO YAARU YUAN A+V(OVER(M)) C(OVER(KG)) CM+DM+MM(
   .CUBED SQUARED) ERA(NAME(HEISEI MEIZI REIWA SYOUWA TAISYOU)) FOUR(CORNERS) HIRAGANA(HOKA) IMAGE+
   ORIGINAL(OF(.OR(EQUAL(TO) NOT(EQUAL(TO))))) K(OHM) KM(.CAPITAL CUBED SQUARED) LEFT+RIGHT(OPEN(
   BOX(OPERATOR))) M(CUBED OHM SQUARED OVER(S(.SQUARED))) MB(.SMALL) MU(A F G L M S V W) MV+MW(
   .MEGA) PA(.AMPS) POSITION(INDICATOR) RAD(.OVER(S(.SQUARED))) WITH(BOTTOM+LEFT+RIGHT+TOP(HALF(
   BLACK)) CONTOURED(OUTLINE) DIAGONAL+ORTHOGONAL(CROSSHATCH(FILL)) HORIZONTAL+VERTICAL(FILL)
   LOWER(LEFT+RIGHT(DIAGONAL(HALF(BLACK)))) UPPER(LEFT(DIAGONAL(HALF(BLACK)) TO(LOWER(RIGHT(
   FILL)))) RIGHT(DIAGONAL(HALF(BLACK)) TO(LOWER(LEFT(FILL))))))) SQUARED(ASTERISK CL COOL FREE HC
   HDR HI-RES HV ID KEY LOSSLESS MINUS MV NEW NG OK PLUS PPV SALTIRE SD SHV SOS SQUARE SS TIMES UHD
   VOD VS WC CJK(UNIFIED(IDEOGRAPH-4E00 IDEOGRAPH-4E09 IDEOGRAPH-4E2D IDEOGRAPH-4E8C IDEOGRAPH-4EA4
   IDEOGRAPH-518D IDEOGRAPH-521D IDEOGRAPH-524D IDEOGRAPH-5272 IDEOGRAPH-53CC IDEOGRAPH-53F3
   IDEOGRAPH-5408 IDEOGRAPH-5439 IDEOGRAPH-55B6 IDEOGRAPH-58F0 IDEOGRAPH-591A IDEOGRAPH-5929
   IDEOGRAPH-5B57 IDEOGRAPH-5DE6 IDEOGRAPH-5F8C IDEOGRAPH-624B IDEOGRAPH-6253 IDEOGRAPH-6295
   IDEOGRAPH-6307 IDEOGRAPH-6355 IDEOGRAPH-6599 IDEOGRAPH-65B0 IDEOGRAPH-6620 IDEOGRAPH-6708~6709
   IDEOGRAPH-6E80 IDEOGRAPH-6F14 IDEOGRAPH-7121 IDEOGRAPH-751F IDEOGRAPH-7533 IDEOGRAPH-7981
   IDEOGRAPH-7A7A IDEOGRAPH-7D42 IDEOGRAPH-89E3 IDEOGRAPH-8CA9 IDEOGRAPH-8D70 IDEOGRAPH-904A
   IDEOGRAPH-914D)) DOT(OPERATOR) EIGHT+TWO(K) FALLING+RISING(DIAGONAL(SLASH)) FIVE+SEVEN(POINT(
   ONE)) FOUR(K DOT(PUNCTUATION)) KATAKANA(DE KOKO SA) LATIN(CAPITAL(LETTER(A B C D E F G H I J K L
   M N O P Q R S T U V W X Y Z)) SMALL(LETTER(D))) LOGICAL(AND OR) ONE(HUNDRED(TWENTY(P))) SECOND(
   SCREEN) SIXTY(P) SMALL(CIRCLE) THREE(D) TWENTY-TWO(POINT(TWO)) UP(WITH(EXCLAMATION(MARK))))
   SQUAT(BLACK(RIGHTWARDS(ARROW))) STAFF(OF(AESCULAPIUS HERMES)) STAR(EQUALS OPERATOR AND(CRESCENT)
   OF(DAVID) WITH(LEFT+RIGHT(HALF(BLACK)))) START(OF(HEADING STRING TEXT GUARDED+PROTECTED+
   SELECTED(AREA))) STATUE(OF(LIBERTY)) STEAMING(BOWL) STENOGRAPHIC(FULL(STOP)) STICK(FIGURE(
   .LEANING(LEFT RIGHT) WITH(DRESS ARMS(RAISED)))) STOCK(CHART) STRAIGHT(RULER) STRESS(OUTLINED(
   WHITE(STAR))) STRICTLY(EQUIVALENT(TO)) STRING(TERMINATOR) STUDIO(MICROPHONE) STUFFED(FLATBREAD)
   SUBSCRIPT(EIGHT FIVE FOUR MINUS NINE ONE SEVEN SIX THREE TWO ZERO EQUALS+PLUS(SIGN) LEFT+RIGHT(
   PARENTHESIS)) SUBSET(ABOVE(SUBSET SUPERSET RIGHTWARDS(ARROW)) OF(.ABOVE(ALMOST+NOT(EQUAL(TO))
   EQUALS(SIGN) TILDE(OPERATOR)) OR(EQUAL(TO(.WITH(DOT(ABOVE))))) WITH(NOT(EQUAL(TO)))) WITH(DOT
   MULTIPLICATION+PLUS(SIGN(BELOW)))) SUMMATION(BOTTOM TOP WITH(INTEGRAL)) SUN(.BEHIND(CLOUD) WITH(
   FACE)) SUNDANESE(AVAGRAHA CONSONANT(SIGN(PAMINGKAL PANYAKRA PANYIKU PASANGAN(MA WA))) DIGIT(
   EIGHT FIVE FOUR NINE ONE SEVEN SIX THREE TWO ZERO) LETTER(A AE BA BHA CA DA E EU FA GA HA I JA
   KA KHA LA LEU MA NA NGA NYA O PA QA RA REU SA SYA TA U VA WA XA YA ZA FINAL(K M)) PUNCTUATION(
   BINDU(CAKRA PANGLONG PURNAMA SURYA BA+DA+KA+LEU(SATANGA))) SIGN(PAMAAEH PANGLAYAR PANGWISAD
   PANYECEK VIRAMA) VOWEL(SIGN(PAMEPET PANAELAENG PANEULEUNG PANGHULU PANOLONG PANYUKU))) SUNRISE(
   .OVER(MOUNTAINS)) SUNSET(OVER(BUILDINGS)) SUPERSCRIPT(EIGHT FIVE FOUR MINUS NINE ONE SEVEN SIX
   THREE TWO ZERO EQUALS+PLUS(SIGN) LATIN(SMALL(LETTER(I N))) LEFT+RIGHT(PARENTHESIS)) SUPERSET(
   ABOVE(SUBSET SUPERSET LEFTWARDS(ARROW)) BESIDE(SUBSET AND(JOINED(BY(DASH(WITH(SUBSET)))))) OF(
   .ABOVE(ALMOST+NOT(EQUAL(TO)) EQUALS(SIGN) TILDE(OPERATOR)) OR(EQUAL(TO(.WITH(DOT(ABOVE)))))
   WITH(NOT(EQUAL(TO)))) PRECEDING(SOLIDUS) WITH(DOT MULTIPLICATION+PLUS(SIGN(BELOW)))) SUSPENSION(
   RAILWAY) SWASH(AMPERSAND(ORNAMENT)) SWUNG+THREE-EM+TWO-EM(DASH) SYLOTI(NAGRI(LETTER(A BHO BO CHO
   CO DDHO DDO DHO DO E GHO GO HO I JHO JO KHO KO LO MO NO O PHO PO RO RRO SO THO TO TTHO TTO U)
   POETRY(MARK-1~4) SIGN(ANUSVARA DVISVARA HASANTA ALTERNATE(HASANTA)) VOWEL(SIGN(A E I OO U))))
   SYMBOL(FOR(ACKNOWLEDGE BACKSPACE BELL CANCEL ENQUIRY ESCAPE NEWLINE NULL SPACE CARRIAGE(RETURN)
   DATA(LINK(ESCAPE)) DELETE+SUBSTITUTE(.FORM(TWO)) DEVICE(CONTROL(FOUR ONE THREE TWO)) END(OF(
   MEDIUM TEXT TRANSMISSION(.BLOCK))) FILE+GROUP+RECORD+UNIT(SEPARATOR) FORM+LINE(FEED) HORIZONTAL+
   VERTICAL(TABULATION) MARKS(CHAPTER) NEGATIVE(ACKNOWLEDGE) SAMARITAN(SOURCE) SHIFT(IN OUT) START(
   OF(HEADING TEXT)) SYNCHRONOUS(IDLE) TYPE(A(ELECTRONICS)))) SYNCHRONOUS(IDLE) SYRIAC(BARREKH
   CONTRACTION MUSIC QUSHSHAYA RUKKAKHA RWAHA ABBREVIATION(MARK) COLON(SKEWED(LEFT RIGHT)) DOTTED(
   ZLAMA(ANGULAR HORIZONTAL)) END(OF(PARAGRAPH)) ESASA+HBASA+RBASA(ABOVE BELOW) FEMININE(DOT)
   HARKLEAN(ASTERISCUS METOBELUS OBELUS) HBASA-ESASA(DOTTED) HORIZONTAL(COLON) LETTER(ALAPH BETH
   DALATH E HE HETH KAPH LAMADH MIM NUN PE QAPH RISH SADHE SEMKATH SHIN TAW WAW ZAIN DOTLESS(
   DALATH(RISH)) FINAL(SEMKATH) GAMAL+TETH(.GARSHUNI) MALAYALAM(BHA JA LLA LLLA NGA NNA NNNA NYA RA
   SSA TTA) PERSIAN(BHETH DHALATH GHAMAL) REVERSED(PE) SOGDIAN(FE KHAPH ZHAIN) SUPERSCRIPT(ALAPH)
   YUDH(.HE)) OBLIQUE(LINE(ABOVE BELOW)) PTHAHA+ZQAPHA(ABOVE BELOW DOTTED) SUBLINEAR(COLON(.SKEWED(
   LEFT RIGHT)) FULL(STOP)) SUPRALINEAR(COLON(.SKEWED(LEFT)) FULL(STOP)) THREE(DOTS(ABOVE BELOW))
   TWO(VERTICAL(DOTS(ABOVE BELOW)))) TABLE(TENNIS(PADDLE(AND(BALL)))) TAG(AMPERSAND APOSTROPHE
   ASTERISK COLON COMMA HYPHEN-MINUS SEMICOLON SOLIDUS SPACE TILDE CIRCUMFLEX+GRAVE(ACCENT)
   COMMERCIAL(AT) DIGIT(EIGHT FIVE FOUR NINE ONE SEVEN SIX THREE TWO ZERO) DOLLAR+EQUALS+
   GREATER-THAN+LESS-THAN+NUMBER+PERCENT+PLUS(SIGN) EXCLAMATION+QUESTION+QUOTATION(MARK) FULL(STOP)
   LATIN(CAPITAL+SMALL(LETTER(A B C D E F G H I J K L M N O P Q R S T U V W X Y Z))) LEFT+RIGHT(
   PARENTHESIS CURLY+SQUARE(BRACKET)) LOW+VERTICAL(LINE) REVERSE(SOLIDUS)) TAGALOG(LETTER(A BA DA
   GA HA I KA LA MA NA NGA PA RA SA TA U WA YA ARCHAIC(RA)) SIGN(PAMUDPOD VIRAMA) VOWEL(SIGN(I U)))
   TAGBANWA(LETTER(A BA DA GA I KA LA MA NA NGA PA SA TA U WA YA) VOWEL(SIGN(I U))) TAI(LE(LETTER(A
   AI AUE E EE EH FA HA I KA KHA LA MA NA NGA O OO PA PHA QA SA TA THA TONE-2~6 TSA TSHA U UE VA XA
   YA)) THAM(COMBINING(CRYPTOGRAMMIC(DOT)) CONSONANT(SIGN(BA MA SA FINAL(NGA) HIGH(RATHA(OR(LOW(
   PA)))) LA(TANG(LAI)) LOW(PA) MEDIAL(LA RA))) HORA+THAM(DIGIT(EIGHT FIVE FOUR NINE ONE SEVEN SIX
   THREE TWO ZERO)) LETTER(A BA DA EE I II LA LAE LLA LUE MA NA NGA NYA OO RA RANA RATA RUE U UU WA
   GREAT(SA) HIGH(CA CHA FA HA KA KHA KXA PA PHA RATHA SA SHA SSA TA THA YA) LOW(CA CHA FA HA KA
   KHA KXA PA PHA RATHA SA TA THA YA)) SIGN(CAANG DOKMAI HANG HOY KAAN KAANKUU KEOW SAKOT SATKAAN
   SATKAANKUU SAWAN TONE-1~2 WIANG WIANGWAAK KHUEN(TONE-3~5) KHUEN-LUE(KARAN) MAI(SAM YAMOK KANG(
   .LAI)) RA(HAAM) REVERSED(ROTATED(RANA))) VOWEL(SIGN(A AA AE AI E I II O OO OY U UE UU UUE MAI(
   SAT) OA(ABOVE BELOW) TALL(AA) THAM(AI)))) VIET(LETTER(HIGH+LOW(BO CHO CO DO FO GO HO KHHO KHO KO
   LO MO NGO NO NYO O PHO PO RO SO THO TO VO YO)) MAI(KANG KHIT) SYMBOL(KON NUENG SAM HO(HOI) KOI(
   KOI)) TONE(MAI(EK NUENG SONG THO)) VOWEL(AA AM AN AUE AY E I IA O U UA UE UEA))) TAKRI(
   ABBREVIATION(SIGN) DIGIT(EIGHT FIVE FOUR NINE ONE SEVEN SIX THREE TWO ZERO) LETTER(A AA AI AU BA
   BHA CA CHA DA DDA DDHA DHA E GA GHA HA I II JA JHA KA KHA LA MA NA NGA NNA NYA O PA PHA RA RRA
   SA SHA TA THA TTA TTHA U UU VA YA ARCHAIC(KHA)) SIGN(ANUSVARA NUKTA VIRAMA VISARGA) VOWEL(SIGN(
   AA AI AU E I II O U UU))) TALLY(MARK(FIVE ONE)) TAMIL(OM AND(ODD(SIGN)) AS(ABOVE(SIGN)) AU(
   LENGTH(MARK)) CREDIT+CURRENT+DAY+DEBIT+LAND+MONTH+RUPEE+SPENT+TOTAL+YEAR(SIGN) DIGIT(EIGHT FIVE
   FOUR NINE ONE SEVEN SIX THREE TWO ZERO) DRY+WET(CULTIVATION(SIGN)) FRACTION(DOWNSCALING(FACTOR(
   KIIZH)) ONE(EIGHTH EIGHTIETH FIFTH FORTIETH HALF-1~2 ONE-HUNDRED-AND-SIXTIETH QUARTER
   SIXTEENTH-1~2 SIXTY-FOURTH TENTH THIRTY-SECOND THREE-HUNDRED-AND-TWENTIETH TWENTIETH) THREE(
   EIGHTIETHS QUARTERS SIXTEENTHS SIXTY-FOURTHS TWENTIETHS)) IN(POSSESSION(SIGN)) LETTER(A AA AI AU
   CA E EE HA I II JA KA LA LLA LLLA MA NA NGA NNA NNNA NYA O OO PA RA RRA SA SHA SSA TA TTA U UU
   VA YA) NUMBER(SIGN TEN ONE(HUNDRED THOUSAND)) PUNCTUATION(END(OF(TEXT))) SALT(PAN(SIGN)) SIGN(
   AAZHAAKKU ANUSVARA CEVITU KAACU KURUNI KUZHI MUKKURUNI MUTHALIYA MUUVUZHAKKU NEL PAARAM PANAM
   PATHAKKU PON UZHAKKU VAKAIYARAA VARAAKAN VELI VIRAMA VISARGA) STARTING(FROM(SIGN)) TRADITIONAL(
   CREDIT+NUMBER(SIGN)) VOWEL(SIGN(AA AI AU E EE I II O OO U UU))) TANGSA(DIGIT(EIGHT FIVE FOUR
   NINE ONE SEVEN SIX THREE TWO ZERO) LETTER(AC AQ AWC AWQ AWX AWZ AX AZ BA CA CHA DA DHA EC EQ EX
   EZ FA GA GHA HA HTA HTTA IC IQ IX IZ KA KHA LA MA MC MQ MX MZ NA NGA NHA NYA OC OQ OX OZ PA PHA
   RA SA SHA TA THA TSA UC UEC UEQ UEX UEZ UIC UIQ UIUC UIUQ UIUX UIUZ UIX UIZ UQ UX UZ VC VQ VX VZ
   WA XA YA ZA FINAL(NG) LONG(UEX) SHORT(AWX UEZ))) TANGUT(COMPONENT-001~768 ITERATION(MARK)) TAPE(
   CARTRIDGE DRIVE) TEACUP(WITHOUT(HANDLE)) TEAR-OFF(CALENDAR) TEDDY(BEAR) TELEPHONE(RECORDER SIGN
   LOCATION(SIGN) ON(TOP(OF(MODEM))) RECEIVER(.WITH(PAGE))) TELUGU(AI(LENGTH(MARK)) DIGIT(EIGHT
   FIVE FOUR NINE ONE SEVEN SIX THREE TWO ZERO) FRACTION(DIGIT(ONE+THREE+TWO(FOR(EVEN+ODD(POWERS(
   OF(FOUR))))) ZERO(FOR(ODD(POWERS(OF(FOUR))))))) LENGTH(MARK) LETTER(A AA AI AU BA BHA CA CHA DA
   DDA DDHA DHA DZA E EE GA GHA HA I II JA JHA KA KHA LA LLA LLLA MA NA NGA NNA NYA O OO PA PHA RA
   RRA RRRA SA SHA SSA TA THA TSA TTA TTHA U UU VA YA NAKAARA(POLLU) VOCALIC(L LL R RR)) SIGN(
   ANUSVARA AVAGRAHA CANDRABINDU NUKTA SIDDHAM TUUMU VIRAMA VISARGA COMBINING(ANUSVARA+CANDRABINDU(
   ABOVE))) VOWEL(SIGN(AA AI AU E EE I II O OO U UU VOCALIC(L LL R RR)))) TENNIS(RACQUET(AND(
   BALL))) TEST(TUBE) TETRAGRAM(FOR(ACCUMULATION ADVANCE AGGRAVATION ASCENT BARRIER CENTRE CHANGE
   CLOSENESS CLOSURE COMPLETION COMPLIANCE CONSTANCY CONTACT CONTENTION CONTRARIETY DARKENING
   DECISIVENESS DEPARTURE DIFFICULTIES DIMINISHMENT DIMMING DIVERGENCE DOUBT DUTIES EASE
   EMBELLISHMENT ENCOUNTERS ENDEAVOUR ENLARGEMENT ETERNITY EXHAUSTION FAILURE FLIGHT FOLLOWING
   FOSTERING FULLNESS GREATNESS GUARDEDNESS HARDNESS INCREASE INNER JOY KINSHIP LABOURING LEGION
   MASSING MEASURE MIRED OPPOSITION PACKING PATTERN PENETRATION PURITY REACH RELEASE RESIDENCE
   RESISTANCE RESPONSE RITUAL SEVERANCE SINKING STOPPAGE STOVE STRENGTH UNITY WAITING WATCH
   YOUTHFULNESS BOLD(RESOLUTION) BRANCHING(OUT) CLOSED(MOUTH) DEFECTIVENESS(OR(DISTORTION)) FULL(
   CIRCLE) GATHERING(.IN) GOING(TO(MEET)) HOLDING(BACK) KEEPING(SMALL) LAW(OR(MODEL)) ON(THE(
   VERGE)) VASTNESS(OR(WASTING)))) THAANA(AABAAFILI ABAFILI EBEFILI EEBEEFILI EYBEYFILI IBIFILI
   OABOAFILI OBOFILI OOBOOFILI SUKUN UBUFILI LETTER(AINU ALIFU BAA CHAVIYANI DAADHU DAVIYANI DHAALU
   FAAFU GAAFU GHAINU GNAVIYANI HAA HHAA JAVIYANI KAAFU KHAA LAAMU LHAVIYANI MEEMU NAA NOONU
   PAVIYANI QAAFU RAA SAADHU SEENU SHAVIYANI SHEENU TAVIYANI THAA THAALU TO TTAA VAAVU WAAVU YAA
   ZAA ZAVIYANI ZO)) THAI(CHARACTER(ANGKHANKHU FONGMAN KHOMUT LAKKHANGYAO LU MAITAIKHU MAIYAMOK
   NIKHAHIT PAIYANNOI PHINTHU RU THANTHAKHAT YAMAKKAN BO(BAIMAI) CHO(CHAN CHANG CHING CHOE) DO(
   CHADA DEK) FO(FA FAN) HO(HIP NOKHUK) KHO(KHAI KHON KHUAT KHWAI RAKHANG) KO(KAI) LO(CHULA LING)
   MAI(CHATTAWA EK HAN-AKAT THO TRI) MO(MA) NGO(NGU) NO(NEN NU) O(ANG) PHO(PHAN PHUNG SAMPHAO) PO(
   PLA) RO(RUA) SARA(A AA AE AM E I II O U UE UEE UU AI(MAIMALAI MAIMUAN)) SO(RUSI SALA SO SUA)
   THO(NANGMONTHO PHUTHAO THAHAN THAN THONG THUNG) TO(PATAK TAO) WO(WAEN) YO(YAK YING)) CURRENCY(
   SYMBOL(BAHT)) DIGIT(EIGHT FIVE FOUR NINE ONE SEVEN SIX THREE TWO ZERO)) THERE(EXISTS DOES(NOT(
   EXIST))) THIN(SALTIRE SPACE GREEK(CROSS)) THONG(SANDAL) THREE(BUTTON(MOUSE) CONSECUTIVE(EQUALS(
   SIGNS)) DIMENSIONAL(ANGLE) DOT(PUNCTUATION) LEFTWARDS+RIGHTWARDS(ARROWS) LINES(CONVERGING(LEFT
   RIGHT)) NETWORKED(COMPUTERS) POINTED(BLACK(STAR)) RAYS(ABOVE BELOW LEFT RIGHT) SPEECH(BUBBLES))
   THREE-D(BOTTOM-LIGHTED(RIGHTWARDS(ARROWHEAD)) LEFT-LIGHTED(DOWNWARDS(EQUILATERAL(ARROWHEAD)))
   RIGHT-LIGHTED(UPWARDS(EQUILATERAL(ARROWHEAD))) TOP-LIGHTED(LEFTWARDS(EQUILATERAL(ARROWHEAD))
   RIGHTWARDS(ARROWHEAD EQUILATERAL(ARROWHEAD)))) THUMBS(DOWN+UP(SIGN)) THUNDER(CLOUD(AND(RAIN)))
   TIBETAN(ASTROLOGICAL(SIGN(-KHYUD(PA) SDONG(TSHUGS) SGRA(GCAN(-CHAR(RTAGS))))) CANTILLATION(SIGN(
   CANG(TE-U) HEAVY+LIGHT(BEAT) SBUB(-CHAL))) DIGIT(EIGHT FIVE FOUR NINE ONE SEVEN SIX THREE TWO
   ZERO HALF(EIGHT FIVE FOUR NINE ONE SEVEN SIX THREE TWO ZERO)) KU(RU(KHA(.BZHI(MIG(CAN)))))
   LETTER(-A A BA BHA CA CHA DA DDA DDHA DHA DZA DZHA GA GHA HA JA KA KHA KKA KSSA LA MA NA NGA NNA
   NYA PA PHA RA RRA SA SHA SSA TA THA TSA TSHA TTA TTHA WA YA ZA ZHA FIXED-FORM(RA)) LOGOTYPE(
   SIGN(CHAD+LHAG(RTAGS))) MARK(HALANTA PALUTA SHAD ANG(KHANG(GYAS GYON)) BKA-(SHOG(GI(MGO(RGYAN))
   YIG(MGO))) BSDUS(RTAGS) BSKA-(SHOG(GI(MGO(RGYAN)))) BSKUR(YIG(MGO)) CARET(-DZUD(RTAGS(BZHI(MIG(
   CAN)) ME(LONG(CAN)))) YIG(MGO(PHUR(SHAD(MA))))) CHE(MGO) CLOSING(BRDA(RNYING(YIG(MGO(SGAB(
   MA))))) YIG(MGO(SGAB(MA)))) DELIMITER(TSHEG(BSTAR)) GTER(TSHEG YIG(MGO(-UM(GTER(TSHEG(MA)) RNAM(
   BCAD(MA))) TRUNCATED(A)))) GUG(RTAGS(GYAS GYON)) INITIAL(BRDA(RNYING(YIG(MGO(MDUN(MA))))) YIG(
   MGO(MDUN(MA)))) INTERSYLLABIC(TSHEG) LEADING+TRAILING(MCHAN(RTAGS)) MNYAM(YIG(GI(MGO(RGYAN))))
   NGAS(BZUNG(NYI(ZLA) SGOR(RTAGS))) NYIS(SHAD TSHEG(.SHAD)) RGYA(GRAM(SHAD)) RIN(CHEN(SPUNGS(
   SHAD))) SBRUL+TSHEG(SHAD) TSA(-PHRU) YIG(MGO(TSHEG(SHAD(MA))))) SIGN(GRU(CAN+MED(RGYINGS))
   INVERTED(MCHU(CAN)) LCE(TSA(CAN)) LCI+YANG(RTAGS) MAR+YAR(TSHES) MCHU(CAN) NYI(ZLA(NAA(DA)))
   RDEL(DKAR(GCIG GNYIS GSUM RDEL(NAG)) NAG(GCIG GNYIS GSUM RDEL(DKAR))) RJES(SU(NGA(RO))) RNAM(
   BCAD) SNA(LDAN)) SUBJOINED(LETTER(-A A BA BHA CA CHA DA DDA DDHA DHA DZA DZHA GA GHA HA JA KA
   KHA KSSA LA MA NA NGA NNA NYA PA PHA RA SA SHA SSA TA THA TSA TSHA TTA TTHA WA YA ZA ZHA
   FIXED-FORM(RA WA YA)) SIGN(INVERTED(MCHU(CAN)) LCE(TSA(CAN)) MCHU(CAN))) SYLLABLE(OM) SYMBOL(
   DRIL(BU) NOR(BU(.BZHI+GSUM+NYIS(-KHYIL))) PADMA(GDAN) PHUR(PA) RDO(RJE(.RGYA(GRAM)))) VOWEL(
   SIGN(AA E EE I II O OO U UU REVERSED(I II) VOCALIC(L LL R RR)))) TIE(OVER(INFINITY)) TIFINAGH(
   CONSONANT(JOINER) LETTER(YA YAA YAB YABH YACH YAD YADD YADDH YADH YAF YAG YAGH YAGHH YAH YAHH
   YAJ YAK YAKH YAKHH YAL YAM YAN YAP YAQ YAR YARR YAS YASH YASS YAT YATH YATT YAV YAW YAY YAZ YAZH
   YAZZ YE YEY YI YO YU AHAGGAR(YAZH) AYER(YAGH) BERBER(ACADEMY(YAH YAJ)) TAWELLEMET(YAZ) TUAREG(
   YAGH YAGN YAH YAK YAKH YANG YAQ YAZH)) MODIFIER(LETTER(LABIALIZATION(MARK))) SEPARATOR(MARK))
   TIGHT(TRIFOLIATE(SNOWFLAKE)) TILDE(.OPERATOR(.ABOVE(LEFTWARDS+RIGHTWARDS(ARROW)) WITH(DOT(ABOVE)
   RISING(DOTS))) WITH(DOT(ABOVE BELOW) RING(ABOVE))) TIMES(WITH(LEFT+RIGHT(HALF(BLACK)))) TINY(
   .TWO(DOTS(OVER(ONE(DOT(PUNCTUATION)))))) TIRHUTA(ANJI GVANG OM ABBREVIATION(SIGN) DIGIT(EIGHT
   FIVE FOUR NINE ONE SEVEN SIX THREE TWO ZERO) LETTER(A AA AI AU BA BHA CA CHA DA DDA DDHA DHA E
   GA GHA HA I II JA JHA KA KHA LA MA NA NGA NNA NYA O PA PHA RA SA SHA SSA TA THA TTA TTHA U UU VA
   YA VOCALIC(L LL R RR)) SIGN(ANUSVARA AVAGRAHA CANDRABINDU NUKTA VIRAMA VISARGA) VOWEL(SIGN(AA AI
   AU E I II O U UU SHORT(E O) VOCALIC(L LL R RR)))) TIRONIAN(SIGN(ET CAPITAL(ET))) TOKYO(TOWER)
   TOP(HAT PARENTHESIS ARC(ANTICLOCKWISE(ARROW(.WITH(PLUS))) CLOCKWISE(ARROW(WITH(MINUS)))) CURLY+
   SQUARE(BRACKET) HALF(INTEGRAL BLACK(CIRCLE) LEFT+RIGHT(PARENTHESIS) SECTION(SIGN)) LEFT+RIGHT(
   CORNER CROP HALF(BRACKET)) TORTOISE(SHELL(BRACKET)) WITH(UPWARDS(ARROW(ABOVE)))) TORTOISE(SHELL(
   BRACKETED(CJK(UNIFIED(IDEOGRAPH-4E09 IDEOGRAPH-4E8C IDEOGRAPH-52DD IDEOGRAPH-5B89 IDEOGRAPH-6253
   IDEOGRAPH-6557 IDEOGRAPH-672C IDEOGRAPH-70B9 IDEOGRAPH-76D7)) LATIN(CAPITAL(LETTER(S))))))
   TOTAL(RUNOUT) TOTO(LETTER(A AE BA CHA DA E EO GA HA I IU JA KA LA MA NA NGA O PA RA SA TA U WA
   YA BREATHY(AE E EO I IU)) SIGN(RISING(TONE))) TRAM(.CAR) TRIANGLE(WITH(UNDERBAR DOT(ABOVE)
   ROUNDED(CORNERS) SERIFS(AT(BOTTOM)))) TRIANGULAR(BULLET RULER FLAG(ON(POST))) TRIDENT(EMBLEM)
   TRIGRAM(FOR(EARTH FIRE HEAVEN LAKE MOUNTAIN THUNDER WATER WIND)) TRIPLE(DAGGER INTEGRAL PLUS
   PRIME TILDE COLON(OPERATOR) HORIZONTAL(BAR(WITH(DOUBLE+TRIPLE(VERTICAL(STROKE))))) NESTED(
   GREATER-THAN LESS-THAN) SOLIDUS(BINARY(RELATION)) VERTICAL(BAR(DELIMITER BINARY(RELATION) RIGHT(
   TURNSTILE) WITH(HORIZONTAL(STROKE))))) TROPICAL(DRINK FISH) TRUE(.LIGHT(MOON(ARTA))) TURKISH(
   LIRA(SIGN)) TURNED(AMPERSAND ANGLE COMMA DAGGER SEMICOLON BLACK(PENTAGON SHOGI(PIECE)) CAPITAL+
   SMALL(F) DIGIT(THREE TWO) GREEK(SMALL(LETTER(IOTA))) NORTH+SOUTH(EAST+WEST(POINTING(LEAF))) NOT(
   SIGN) OK(HAND(SIGN)) SANS-SERIF(CAPITAL(G L Y)) WHITE(SHOGI(PIECE))) TWELVE(POINTED(BLACK(
   STAR))) TWISTED(RIGHTWARDS(ARROWS)) TWO(HEARTS ASTERISKS(ALIGNED(VERTICALLY)) BUTTON(MOUSE)
   CONSECUTIVE(EQUALS(SIGNS)) DOT(LEADER PUNCTUATION) DOTS(OVER(ONE(DOT(PUNCTUATION))))
   INTERSECTING(LOGICAL(AND OR)) JOINED(SQUARES) LOGICAL(AND+OR(OPERATOR)) MEN+WOMEN(HOLDING(
   HANDS)) SPEECH(BUBBLES)) UGARITIC(LETTER(AIN ALPA BETA DELTA DHAL GAMLA GHAIN HO HOTA I KAF KHA
   LAMDA MEM NUN PU QOPA RASHA SADE SAMKA SHIN SSU TET THANNA TO U WO YOD ZETA ZU) WORD(DIVIDER))
   UMBRELLA(.ON(GROUND) WITH(RAIN(DROPS))) UNION(.ABOVE(INTERSECTION BAR(ABOVE(INTERSECTION)))
   BESIDE(AND(JOINED(WITH(UNION)))) WITH(OVERBAR LOGICAL(OR) MINUS(SIGN))) UNIVERSAL(RECYCLING(
   SYMBOL)) UNMARRIED(PARTNERSHIP(SYMBOL)) UP(ARROW(THROUGH(CIRCLE)) ARROWHEAD(.BETWEEN(TWO(
   HORIZONTAL(BARS))) IN(A(RECTANGLE(BOX)))) BARB(LEFT+RIGHT(DOWN(BARB(LEFT+RIGHT(HARPOON)))))
   DOWN(ARROW(.WITH(BASE)) BLACK+DOUBLE+SANS-SERIF+TRIANGLE-HEADED+WHITE(ARROW)) FISH(TAIL) RIGHT(
   DIAGONAL(ELLIPSIS)) TACK(.WITH(CIRCLE(ABOVE)))) UP-POINTING(AIRPLANE MILITARY(AIRPLANE) RED(
   TRIANGLE) SMALL(AIRPLANE RED(TRIANGLE)) TRIANGLE(WITH(LEFT+RIGHT(HALF(BLACK))))) UPPER(AND(LEFT+
   RIGHT(AND(LOWER(TRIANGULAR(THREE(QUARTERS(BLOCK)))))) LOWER(ONE(EIGHTH(BLOCK)) TRIANGULAR(HALF(
   BLOCK)))) BLADE(SCISSORS) FIVE+SEVEN(EIGHTHS(BLOCK)) HALF(CIRCLE BLOCK(.AND(LOWER(HALF(INVERSE(
   MEDIUM(SHADE)))))) INVERSE(MEDIUM(SHADE(AND(LOWER(HALF(BLOCK))))) WHITE(CIRCLE)) MEDIUM(SHADE))
   LEFT(TRIANGLE BLOCK(DIAGONAL(LOWER(CENTRE(TO(LOWER(MIDDLE(RIGHT)) UPPER(RIGHT MIDDLE(RIGHT))))
   LEFT(TO(LOWER(MIDDLE(RIGHT)) UPPER(CENTRE MIDDLE(RIGHT)))) MIDDLE(LEFT(TO(UPPER(CENTRE RIGHT
   MIDDLE(RIGHT)))))) UPPER(MIDDLE(LEFT(TO(UPPER(CENTRE RIGHT))))))) CORNER(WITH(DOT)) OR(LOWER(
   RIGHT(CURLY(BRACKET(SECTION))))) QUADRANT(CIRCULAR(ARC)) TO(LOWER(RIGHT(FILL))) TRIANGULAR(
   MEDIUM(SHADE))) ONE(EIGHTH+QUARTER(BLOCK)) RIGHT(PENCIL TRIANGLE BLOCK(DIAGONAL(LOWER(MIDDLE(
   LEFT(TO(LOWER(CENTRE RIGHT))))) UPPER(CENTRE(TO(LOWER(RIGHT MIDDLE(RIGHT)) UPPER(MIDDLE(
   RIGHT)))) LEFT(TO(LOWER(CENTRE MIDDLE(RIGHT)) UPPER(MIDDLE(RIGHT)))) MIDDLE(LEFT(TO(LOWER(CENTRE
   RIGHT MIDDLE(RIGHT)))))))) DROP-SHADOWED(WHITE(SQUARE)) OR(LOWER(LEFT(CURLY(BRACKET(SECTION)))))
   QUADRANT(CIRCULAR(ARC)) SHADOWED(WHITE(CIRCLE SQUARE)) TO(LOWER(LEFT(FILL))) TRIANGULAR(MEDIUM(
   SHADE))) THREE(EIGHTHS+QUARTERS(BLOCK)) TRIANGULAR(ONE(QUARTER(BLOCK)))) UPWARDS(ANCORA ROCKET
   ARROW(.AND(RIGHT(ONE(EIGHTH(BLOCK)))) FROM+TO(BAR) LEFTWARDS(OF(DOWNWARDS(ARROW))) WITH(DOUBLE+
   HORIZONTAL(STROKE) EQUILATERAL(ARROWHEAD) LARGE+MEDIUM(TRIANGLE(ARROWHEAD)) NOTCHED(TAIL) SMALL(
   EQUILATERAL+TRIANGLE(ARROWHEAD)) TIP(LEFTWARDS RIGHTWARDS))) BLACK(ARROW CIRCLED(WHITE(ARROW)))
   COMPRESSED+DASHED+DOUBLE+FINGER-POST+QUADRUPLE+SANS-SERIF+SQUARED+TRIPLE(ARROW) HARPOON(WITH(
   BARB(LEFTWARDS RIGHTWARDS LEFT(BESIDE(DOWNWARDS+UPWARDS(HARPOON(WITH(BARB(RIGHT))))) FROM+TO(
   BAR)) RIGHT(FROM+TO(BAR))))) HEAVY(ARROW COMPRESSED(ARROW)) PAIRED(ARROWS) TRIANGLE(ARROWHEAD)
   TRIANGLE-HEADED(ARROW(.LEFTWARDS(OF(DOWNWARDS(TRIANGLE-HEADED(ARROW)))) TO(BAR) WITH(BOLD+HEAVY+
   MEDIUM+NARROW(SHAFT) DOUBLE(HORIZONTAL(STROKE)) LONG(TIP(LEFTWARDS RIGHTWARDS)) VERY(HEAVY(
   SHAFT)))) DASHED(ARROW) PAIRED(ARROWS)) TWO(HEADED(ARROW)) TWO-HEADED(ARROW(FROM(SMALL(CIRCLE))
   WITH(TRIANGLE(ARROWHEADS)))) WHITE(ARROW(.FROM(BAR(.WITH(HORIZONTAL(BAR)))) ON(PEDESTAL(.WITH(
   HORIZONTAL+VERTICAL(BAR)))) WITHIN(TRIANGLE(ARROWHEAD))) DOUBLE(ARROW(.ON(PEDESTAL))))) VAI(
   COMMA DIGIT(EIGHT FIVE FOUR NINE ONE SEVEN SIX THREE TWO ZERO) FULL(STOP) QUESTION(MARK)
   SYLLABLE(A AN BA BE BEE BHA BHE BHEE BHI BHO BHOO BHU BI BO BOO BU CA CE CEE CI CO COO CU DA DE
   DEE DHA DHE DHEE DHHA DHHE DHHEE DHHI DHHO DHHOO DHHU DHI DHO DHOO DHU DI DO DOO DU E EE EEN EN
   FA FE FEE FI FO FOO FU GA GBA GBE GBEE GBEN GBI GBO GBON GBOO GBU GE GEE GEN GI GO GOO GU HA HAN
   HE HEE HEN HI HIN HO HON HOO HU HUN I IN JA JE JEE JI JO JOO JU KA KAN KE KEE KI KO KOO KPA KPAN
   KPE KPEE KPEN KPI KPO KPOO KPU KU LA LE LEE LENGTHENER LI LO LOO LU MA MBA MBE MBEE MBI MBO MBOO
   MBU ME MEE MGBA MGBE MGBEE MGBI MGBO MGBOO MGBU MI MO MOO MU NA NDA NDE NDEE NDI NDO NDOO NDU NE
   NEE NG NGAN NGEN NGGA NGGE NGGEE NGGEN NGGI NGGO NGGOO NGGU NGON NI NJA NJE NJEE NJI NJO NJOO
   NJU NO NOO NU NYA NYE NYEE NYI NYO NYOO NYU O ON OO OON PA PE PEE PI PO POO PU RA RE REE RI RO
   ROO RU SA SE SEE SHA SHE SHEE SHI SHO SHOO SHU SI SO SOO SU TA TE TEE THA THE THEE THI THO THOO
   THU TI TO TOO TU U UN VA VE VEE VI VO VOO VU WA WAN WE WEE WEEN WEN WI WIN WO WON WOO WOON WU
   WUN YA YE YEE YI YO YOO YU ZA ZE ZEE ZHA ZHE ZHEE ZHI ZHO ZHOO ZHU ZI ZO ZOO ZU NDOLE(DO FA KA
   MA SOO)) SYMBOL(BANG DANG DO-O DOONG FAA FEENG JONG KEENG KUNG NII TAA TING TONG)) VARIATION(
   SELECTOR-1~9 SELECTOR-10~99 SELECTOR-100~256) VECTOR(OR(CROSS(PRODUCT))) VEDIC(SIGN(ARDHAVISARGA
   ATIKRAMA JIHVAMULIYA NIHSHVASA TIRYAK UPADHMANIYA ANUSVARA(ANTARGOMUKHA BAHIRGOMUKHA UBHAYATO(
   MUKHA) VAMAGOMUKHA(.WITH(TAIL))) DOUBLE(ANUSVARA(ANTARGOMUKHA)) HEXIFORM+RTHANG(LONG(ANUSVARA))
   LONG(ANUSVARA) REVERSED(VISARGA(ANUDATTA UDATTA)) ROTATED(ARDHAVISARGA) VISARGA(SVARITA
   ANUDATTA+UDATTA(.WITH(TAIL))) YAJURVEDIC(MIDLINE(SVARITA))) TONE(KARSHANA PRENKHA SHARA
   ATHARVAVEDIC(INDEPENDENT(SVARITA)) CANDRA(ABOVE BELOW) DOT(BELOW) DOUBLE(SVARITA RING(ABOVE))
   KATHAKA(ANUDATTA) RIGVEDIC(KASHMIRI(INDEPENDENT(SVARITA))) RING(ABOVE) THREE+TWO(DOTS(BELOW))
   TRIPLE(SVARITA) YAJURVEDIC(AGGRAVATED(INDEPENDENT(SVARITA)) INDEPENDENT(SVARITA) KATHAKA(
   INDEPENDENT(SVARITA(.SCHROEDER)))))) VERTICAL(ELLIPSIS TILDE BAR(BESIDE(RIGHT(TRIANGLE)) DOUBLE(
   LEFT(TURNSTILE)) TRIPLE(RIGHT(TURNSTILE)) WITH(HORIZONTAL(STROKE))) FOUR+SIX(DOTS) IDEOGRAPHIC(
   ITERATION(MARK)) KANA(REPEAT(MARK(.LOWER+UPPER(HALF)) WITH(VOICED(SOUND(MARK(.UPPER(HALF)))))))
   LINE(.EXTENSION WITH(CIRCLE(ABOVE BELOW) MIDDLE(DOT))) MALE(WITH(STROKE(SIGN))) ONE(EIGHTH(
   BLOCK-2~7)) TAB(KEY) TABULATION(.SET) TRAFFIC(LIGHT) ZIGZAG(LINE)) VERY(BOLD(GREEK(CROSS))
   HEAVY(SALTIRE SOLIDUS EIGHT(POINTED(BLACK(STAR)) SPOKED(ASTERISK)) FIVE+SIX(SPOKED(ASTERISK))
   GREEK(CROSS) REVERSE(SOLIDUS) WHITE(CIRCLE SQUARE)) MUCH(GREATER-THAN LESS-THAN)) VIBRATION(
   MODE) VIDEO(CAMERA GAME) VIETNAMESE(ALTERNATE(READING(MARK(CA NHAY)))) VIEWDATA(SQUARE)
   VITHKUQI(CAPITAL+SMALL(LETTER(A BBE BE CE CHE DE DHE E EI FE GA HA HHA I IJE JE KA LA LLA ME NE
   NJE O PE QA RE SE SHE TE THE U VE XE Y ZE))) VOIDED(GREEK(CROSS)) VULGAR(FRACTION(FIVE(EIGHTHS
   SIXTHS) FOUR(FIFTHS) ONE(EIGHTH FIFTH HALF NINTH QUARTER SEVENTH SIXTH TENTH THIRD) SEVEN(
   EIGHTHS) THREE(EIGHTHS FIFTHS QUARTERS) TWO(FIFTHS THIRDS) ZERO(THIRDS))) WANCHO(DIGIT(EIGHT
   FIVE FOUR NINE ONE SEVEN SIX THREE TWO ZERO) LETTER(A AA AAN AANG ANG AU BA CA DA E EN FA GA HA
   I ING JA KA KHA LA LLHA MA NA NGA NYA O ON ONG PA PHA RA SA SHA TA THA TRA TSA U UEN VA WA YA
   YIH ZA) NGUN(SIGN) TONE(KOI KOINI TUP TUPNI)) WANING+WAXING(CRESCENT+GIBBOUS(MOON(SYMBOL)))
   WARANG(CITI(OM CAPITAL+SMALL(LETTER(A AM ANG AT BU DA E ENN ENY GA HAR HIYO HOLO HORR II KO NGAA
   NUNG O ODD PU SII SSUU TTE UC UU VIYO WI YA YO YU YUJ)) DIGIT(EIGHT FIVE FOUR NINE ONE SEVEN SIX
   THREE TWO ZERO) NUMBER(EIGHTY FIFTY FORTY NINETY SEVENTY SIXTY TEN THIRTY TWENTY))) WATER(
   BUFFALO CLOSET POLO WAVE) WAVE(DASH ARROW(POINTING(DIRECTLY(LEFT RIGHT)))) WAVING(BLACK+WHITE(
   FLAG) HAND(SIGN)) WAVY(DASH LINE OVERLINE LOW(LINE)) WEIERSTRASS(ELLIPTIC(FUNCTION)) WEIGHT(
   LIFTER) WHEEL(.OF(DHARMA)) WHITE(BULLET FLORETTE FLOWER HEXAGON HOURGLASS NIB PARALLELOGRAM
   PENNANT PENTAGON RECTANGLE SCISSORS STAR TELEPHONE TRAPEZIUM ARROW(SHAFT(WIDTH(ONE TWO(
   THIRDS)))) CHESS(KNIGHT-BISHOP KNIGHT-QUEEN KNIGHT-ROOK BISHOP+KING+PAWN+QUEEN+ROOK(.ROTATED(
   NINETY(DEGREES) TWO(HUNDRED(SEVENTY(DEGREES))))) EQUIHOPPER(.ROTATED(NINETY(DEGREES))) KNIGHT(
   .ROTATED(FORTY-FIVE+NINETY(DEGREES) ONE(HUNDRED(THIRTY-FIVE(DEGREES))) THREE(HUNDRED(FIFTEEN(
   DEGREES))) TWO(HUNDRED(SEVENTY+TWENTY-FIVE(DEGREES))))) TURNED(BISHOP KING KNIGHT PAWN QUEEN
   ROOK)) CIRCLE(.CONTAINING(BLACK(SMALL(CIRCLE))) WITH(DOT(RIGHT) DOWN(ARROW) LOWER+UPPER(LEFT+
   RIGHT(QUADRANT)) TWO(DOTS))) CLUB+SPADE(SUIT) CONCAVE-SIDED(DIAMOND(.WITH(LEFTWARDS+RIGHTWARDS(
   TICK)))) DIAMOND(.SUIT CONTAINING(BLACK(MEDIUM+SMALL(DIAMOND) VERY(SMALL(DIAMOND)))) IN(SQUARE)
   WITH(CENTRED(DOT))) DOWN(POINTING(INDEX BACKHAND(INDEX) LEFT(HAND(INDEX)))) DOWN-POINTING(
   TRIANGLE SMALL(TRIANGLE)) DRAUGHTS(KING MAN) EXCLAMATION+QUESTION(MARK(ORNAMENT)) FLAG(.WITH(
   HORIZONTAL(MIDDLE(BLACK(STRIPE))))) FOUR(POINTED(CUSP STAR)) FROWNING+SMILING(FACE) HARD(SHELL(
   FLOPPY(DISK))) HEART(.SUIT) HEAVY(CHECK(MARK) SALTIRE(WITH(ROUNDED(CORNERS)))) HORIZONTAL(
   ELLIPSE) LARGE(SQUARE) LATIN(CROSS) LEFT(LANE(MERGE) POINTING(INDEX BACKHAND(INDEX)))
   LEFT-POINTING(POINTER TRIANGLE SMALL(TRIANGLE)) LOZENGE(CONTAINING(BLACK(SMALL(LOZENGE))))
   MEDIUM(DIAMOND LOZENGE SQUARE STAR SMALL(SQUARE)) MOON(SELENA) RIGHT+UP(POINTING(INDEX BACKHAND(
   INDEX))) RIGHT-POINTING(PENTAGON POINTER TRIANGLE SMALL(TRIANGLE)) SESAME(DOT) SHOGI(PIECE)
   SMALL(LOZENGE SQUARE STAR) SQUARE(.BUTTON CONTAINING(BLACK(MEDIUM+SMALL(SQUARE) VERY(SMALL(
   SQUARE)))) WITH(CENTRE(VERTICAL(LINE)) LEFTWARDS+RIGHTWARDS(TICK) LOWER+UPPER(LEFT+RIGHT(
   QUADRANT)) ROUNDED(CORNERS) VERTICAL(BISECTING(LINE)))) SUN(.BEHIND(CLOUD(.WITH(RAIN))) WITH(
   RAYS SMALL(CLOUD))) TOUCHTONE(TELEPHONE) TRIANGLE(CONTAINING(SMALL(WHITE(TRIANGLE)))) TWO-WAY(
   LEFT(WAY(TRAFFIC))) UP-POINTING(CHEVRON SMALL(TRIANGLE) TRIANGLE(.WITH(DOT))) VERTICAL(BAR
   ELLIPSE RECTANGLE) VERY(SMALL(SQUARE))) WIDE-HEADED(DOWNWARDS+LEFTWARDS+RIGHTWARDS+UPWARDS(BARB(
   ARROW) HEAVY+LIGHT+MEDIUM(BARB(ARROW)) VERY(HEAVY(BARB(ARROW)))) NORTH+SOUTH(EAST+WEST(BARB(
   ARROW) HEAVY+LIGHT+MEDIUM(BARB(ARROW)) VERY(HEAVY(BARB(ARROW)))))) WIGGLY(VERTICAL(LINE))
   WILTED(FLOWER) WIND(CHIME BLOWING(FACE)) WIRED(KEYBOARD) WOMAN(.WITH(BUNNY(EARS))) WOMANS(BOOTS
   CLOTHES HAT SANDAL) WORD(JOINER SEPARATOR(MIDDLE(DOT))) WORLD(MAP) WRAPPED(PRESENT) X(IN(A(
   RECTANGLE(BOX)))) XIANGQI(BLACK+RED(CANNON CHARIOT ELEPHANT GENERAL HORSE MANDARIN SOLDIER))
   YEZIDI(COMBINING(HAMZA+MADDA(MARK)) HYPHENATION(MARK) LETTER(BE CHHIM CHIM CIM DAD DAL ELIF ET
   EW EYN FA GAF HAY HHA JA KAF KHAF MIM NUN OW PE PHE QAF RA RHA SAD SE SHIN SIN TA THE UM WAW XA
   XHEYN ZA ZAL ZE LAM(.WITH(DOT(ABOVE))) VA(.ALTERNATE(FORM)) YOT(.WITH(CIRCUMFLEX(ABOVE))))) YI(
   RADICAL(BBUT BUR CHE CIP CUOP CY CYP CYT DDUR DU GA GEP GGOP GGUO GOT HMO HXIT HXOP HXUO JJIE
   JJUT JJY JO KE KIT LI LIE LYR MI MOP NBIE NYIP NYOP NZUP OP PUT PYT QOT SHAT SHOP SHUR SHY SSI
   TAT TU VEP VUR WO YIT YO ZA ZOT ZUP ZUR ZZIET) SYLLABLE(A AP AT AX BA BAP BAT BAX BBA BBAP BBAT
   BBAX BBE BBEP BBEX BBI BBIE BBIEP BBIET BBIEX BBIP BBIT BBIX BBO BBOP BBOT BBOX BBU BBUO BBUOP
   BBUOX BBUP BBUR BBURX BBUT BBUX BBY BBYP BBYT BBYX BE BEP BEX BI BIE BIEP BIET BIEX BIP BIT BIX
   BO BOP BOT BOX BU BUO BUOP BUOX BUP BUR BURX BUT BUX BY BYP BYR BYRX BYT BYX CA CAP CAT CAX CE
   CEP CEX CHA CHAP CHAT CHAX CHE CHEP CHET CHEX CHO CHOP CHOT CHOX CHU CHUO CHUOP CHUOT CHUOX CHUP
   CHUR CHURX CHUX CHY CHYP CHYR CHYRX CHYT CHYX CI CIE CIEP CIET CIEX CIP CIT CIX CO COP COT COX
   CU CUO CUOP CUOX CUP CUR CURX CUT CUX CY CYP CYR CYRX CYT CYX DA DAP DAT DAX DDA DDAP DDAT DDAX
   DDE DDEP DDEX DDI DDIE DDIEP DDIEX DDIP DDIT DDIX DDO DDOP DDOT DDOX DDU DDUO DDUOP DDUOX DDUP
   DDUR DDURX DDUT DDUX DE DEP DEX DI DIE DIEP DIEX DIP DIT DIX DO DOP DOT DOX DU DUO DUOX DUP DUR
   DURX DUT DUX E EX FA FAP FAT FAX FI FIP FIT FIX FO FOP FOX FU FUP FUR FURX FUT FUX FY FYP FYT
   FYX GA GAP GAT GAX GE GEP GET GEX GGA GGAP GGAT GGAX GGE GGEP GGET GGEX GGI GGIE GGIEP GGIEX
   GGIT GGIX GGO GGOP GGOT GGOX GGU GGUO GGUOP GGUOT GGUOX GGUP GGUR GGURX GGUT GGUX GI GIE GIEP
   GIET GIEX GIP GIT GIX GO GOP GOT GOX GU GUO GUOP GUOT GUOX GUP GUR GURX GUT GUX HA HAP HAT HAX
   HE HEP HEX HIE HIEX HIT HLA HLAP HLAT HLAX HLE HLEP HLEX HLI HLIE HLIEP HLIEX HLIP HLIT HLIX HLO
   HLOP HLOX HLU HLUO HLUOP HLUOX HLUP HLUR HLURX HLUT HLUX HLY HLYP HLYR HLYRX HLYT HLYX HMA HMAP
   HMAT HMAX HMI HMIE HMIEP HMIEX HMIP HMIT HMIX HMO HMOP HMOT HMOX HMU HMUO HMUOP HMUOX HMUP HMUR
   HMURX HMUT HMUX HMY HMYP HMYR HMYRX HMYX HNA HNAP HNAT HNAX HNE HNEP HNEX HNI HNIE HNIEP HNIET
   HNIEX HNIP HNIT HNIX HNOP HNOT HNOX HNUO HNUOX HNUT HO HOP HOT HOX HUO HUOP HUOT HUOX HXA HXAP
   HXAT HXAX HXE HXEP HXEX HXI HXIE HXIEP HXIET HXIEX HXIP HXIT HXIX HXO HXOP HXOT HXOX HXUO HXUOP
   HXUOT HXUOX I IE IEP IET IEX IP IT IX JI JIE JIEP JIET JIEX JIP JIT JIX JJI JJIE JJIEP JJIET
   JJIEX JJIP JJIT JJIX JJO JJOP JJOT JJOX JJU JJUO JJUOP JJUOX JJUP JJUR JJURX JJUT JJUX JJY JJYP
   JJYT JJYX JO JOP JOT JOX JU JUO JUOP JUOT JUOX JUP JUR JURX JUT JUX JY JYP JYR JYRX JYT JYX KA
   KAP KAT KAX KE KEP KET KEX KI KIE KIEP KIEX KIP KIT KIX KO KOP KOT KOX KU KUO KUOP KUOX KUP KUR
   KURX KUT KUX LA LAP LAT LAX LE LEP LEX LI LIE LIEP LIET LIEX LIP LIT LIX LO LOP LOT LOX LU LUO
   LUOP LUOT LUOX LUP LUR LURX LUT LUX LY LYP LYR LYRX LYT LYX MA MAP MAT MAX ME MEX MGA MGAP MGAT
   MGAX MGE MGEP MGEX MGIE MGIEX MGO MGOP MGOT MGOX MGU MGUO MGUOP MGUOX MGUP MGUR MGURX MGUT MGUX
   MI MIE MIEP MIEX MIP MIT MIX MO MOP MOT MOX MU MUO MUOP MUOT MUOX MUP MUR MURX MUT MUX MY MYP
   MYT MYX NA NAP NAX NBA NBAP NBAT NBAX NBI NBIE NBIEP NBIEX NBIP NBIT NBIX NBO NBOP NBOT NBOX NBU
   NBUP NBUR NBURX NBUT NBUX NBY NBYP NBYR NBYRX NBYT NBYX NDA NDAP NDAT NDAX NDE NDEP NDEX NDI
   NDIE NDIEX NDIP NDIT NDIX NDO NDOP NDOT NDOX NDU NDUP NDUR NDURX NDUT NDUX NE NEP NEX NGA NGAP
   NGAT NGAX NGE NGEP NGEX NGIE NGIEP NGIEX NGO NGOP NGOT NGOX NGUO NGUOT NGUOX NI NIE NIEP NIEX
   NIP NIT NIX NJI NJIE NJIEP NJIET NJIEX NJIP NJIT NJIX NJO NJOP NJOT NJOX NJU NJUO NJUOX NJUP
   NJUR NJURX NJUX NJY NJYP NJYR NJYRX NJYT NJYX NO NOP NOT NOX NRA NRAP NRAT NRAX NRE NREP NRET
   NREX NRO NROP NROX NRU NRUP NRUR NRURX NRUT NRUX NRY NRYP NRYR NRYRX NRYT NRYX NU NUO NUOP NUOX
   NUP NUR NURX NUT NUX NYI NYIE NYIEP NYIET NYIEX NYIP NYIT NYIX NYO NYOP NYOT NYOX NYU NYUO NYUOP
   NYUOX NYUP NYUT NYUX NZA NZAP NZAT NZAX NZE NZEX NZI NZIE NZIEP NZIEX NZIP NZIT NZIX NZOP NZOX
   NZU NZUO NZUOX NZUP NZUR NZURX NZUX NZY NZYP NZYR NZYRX NZYT NZYX O OP OT OX PA PAP PAT PAX PI
   PIE PIEP PIEX PIP PIT PIX PO POP POT POX PU PUO PUOP PUOX PUP PUR PURX PUT PUX PY PYP PYR PYRX
   PYT PYX QI QIE QIEP QIET QIEX QIP QIT QIX QO QOP QOT QOX QU QUO QUOP QUOT QUOX QUP QUR QURX QUT
   QUX QY QYP QYR QYRX QYT QYX RA RAP RAT RAX RE REP REX RO ROP ROT ROX RRA RRAX RRE RREP RRET RREX
   RRO RROP RROT RROX RRU RRUO RRUOX RRUP RRUR RRURX RRUT RRUX RRY RRYP RRYR RRYRX RRYT RRYX RU RUO
   RUOP RUOX RUP RUR RURX RUT RUX RY RYP RYR RYRX RYT RYX SA SAP SAT SAX SE SEP SEX SHA SHAP SHAT
   SHAX SHE SHEP SHET SHEX SHO SHOP SHOT SHOX SHU SHUO SHUOP SHUOX SHUP SHUR SHURX SHUT SHUX SHY
   SHYP SHYR SHYRX SHYT SHYX SI SIE SIEP SIEX SIP SIT SIX SO SOP SOT SOX SSA SSAP SSAT SSAX SSE
   SSEP SSEX SSI SSIE SSIEP SSIEX SSIP SSIT SSIX SSO SSOP SSOT SSOX SSU SSUP SSUT SSUX SSY SSYP
   SSYR SSYRX SSYT SSYX SU SUO SUOP SUOX SUP SUR SURX SUT SUX SY SYP SYR SYRX SYT SYX TA TAP TAT
   TAX TE TEP TEX TI TIE TIEP TIEX TIP TIT TIX TO TOP TOT TOX TU TUO TUOP TUOT TUOX TUP TUR TURX
   TUT TUX UO UOP UOX VA VAP VAT VAX VEP VEX VI VIE VIEP VIET VIEX VIP VIT VIX VO VOP VOT VOX VU
   VUP VUR VURX VUT VUX VY VYP VYR VYRX VYT VYX WA WAP WAT WAX WE WEP WEX WO WOP WOX WU WUO WUOP
   WUOX XI XIE XIEP XIET XIEX XIP XIT XIX XO XOP XOT XOX XUO XUOX XY XYP XYR XYRX XYT XYX YI YIE
   YIEP YIET YIEX YIP YIT YIX YO YOP YOT YOX YU YUO YUOP YUOT YUOX YUP YUR YURX YUT YUX YY YYP YYR
   YYRX YYT YYX ZA ZAP ZAT ZAX ZE ZEP ZEX ZHA ZHAP ZHAT ZHAX ZHE ZHEP ZHET ZHEX ZHO ZHOP ZHOT ZHOX
   ZHU ZHUO ZHUOP ZHUOX ZHUP ZHUR ZHURX ZHUT ZHUX ZHY ZHYP ZHYR ZHYRX ZHYT ZHYX ZI ZIE ZIEP ZIEX
   ZIP ZIT ZIX ZO ZOP ZOT ZOX ZU ZUO ZUOP ZUOX ZUP ZUR ZURX ZUT ZUX ZY ZYP ZYR ZYRX ZYT ZYX ZZA
   ZZAP ZZAT ZZAX ZZE ZZEP ZZEX ZZI ZZIE ZZIEP ZZIET ZZIEX ZZIP ZZIT ZZIX ZZO ZZOP ZZOX ZZU ZZUP
   ZZUR ZZURX ZZUX ZZY ZZYP ZZYR ZZYRX ZZYT ZZYX ITERATION(MARK))) YIN(YANG) Z(NOTATION(SPOT BAG(
   MEMBERSHIP) DOMAIN+RANGE(ANTIRESTRICTION) LEFT+RIGHT(BINDING+IMAGE(BRACKET)) RELATIONAL(
   COMPOSITION) SCHEMA(COMPOSITION PIPING PROJECTION) TYPE(COLON))) ZANABAZAR(SQUARE(SUBJOINER
   CLOSING+INITIAL(DOUBLE-LINED(HEAD(MARK)) HEAD(MARK)) CLUSTER-FINAL(LETTER(LA RA VA YA))
   CLUSTER-INITIAL(LETTER(RA)) FINAL(CONSONANT(MARK)) LETTER(-A A BA BHA CA CHA DA DDA DDHA DHA DZA
   DZHA GA GHA HA JA KA KHA KSSA LA MA NA NGA NNA NYA PA PHA RA SA SHA SSA TA THA TSA TSHA TTA TTHA
   VA YA ZA ZHA) MARK(SHAD TSHEG DOUBLE(SHAD) LONG(TSHEG)) SIGN(ANUSVARA VIRAMA VISARGA CANDRA(
   WITH(ORNAMENT)) CANDRABINDU(.WITH(ORNAMENT))) VOWEL(LENGTH(MARK) SIGN(AI AU E I O OE U UE
   REVERSED(I))))) ZERO(WIDTH(JOINER NON-JOINER SPACE NO-BREAK(SPACE))) ZNAMENNY(COMBINING(
   ATTACHING(VERTICAL(OMET)) LOWER(TONAL(RANGE(INDICATOR))) MARK(BORZAYA DVOETOCHIE KACHKA KUPNAYA
   LOMKA OBLACHKO ON OTSECHKA PODVERTKA RAVNO RAZSEKA SKOBA TIKHAYA TOCHKA UDARKA ZADERZHKA ZELO
   ZEVOK CHASHKA(.POLNAYA) CURVED(OMET) DEMESTVENNY(ZADERZHKA) GORAZDO(VYSOKO NIZKO(ON(LEFT RIGHT)
   S(KRYZHEM(ON(LEFT RIGHT))))) KRYZH(.ON(LEFT)) MALO(POVYSHE(STRANNO ON(LEFT RIGHT) S(KRYZHEM
   KHOKHLOM(ON(LEFT RIGHT))))) NIZKO(ON(LEFT RIGHT) S(KRYZHEM(ON(LEFT RIGHT)))) PODCHASHIE(.WITH(
   VERTICAL(STROKE))) POVYSHE(STRANNO ON(LEFT RIGHT) S(KRYZHEM KHOKHLOM(ON(LEFT RIGHT)))) SOROCHYA(
   NOZHKA) SREDNE(ON(LEFT RIGHT)) STRANNO(MALO(POVYSHE)) TSATA(ON(LEFT RIGHT) S(KRYZHEM)) VYSOKO(
   ON(LEFT RIGHT) S(KRYZHEM KHOKHLOM(ON(LEFT RIGHT))))) TONAL(RANGE(MARK(MRACHNO SVETLO
   TRESVETLO)))) NEUME(CHASHKA CHELYUSTKA DERBITSA DUDA FITA KHAMILO KLYUCH KOBYLA KRYZH KUFISMA
   NEMKA OBLAKO PALKA PARAKLIT PAUK PODCHASHIE POLKULIZMY ROG ZANOZHEK ZAPYATAYA ZMEYTSA
   DEMESTVENNY(KLYUCH) DOUBLE(ZAPYATAYA) DVA(V(CHELNU)) GOLUBCHIK(BORZY MRACHNY SVETLY TIKHY
   TRESVETLY) KRYUK(.TIKHY) MECHIK(.KLYUCHENEPOSTOYANNY KLYUCHEPOVODNY KLYUCHEVOY POVODNY) OSOKA(
   .SVETLAYA TRESVETLAYA KLYUCHEVAYA(NEPOSTOYANNAYA SVETLAYA) KRYUKOVAYA(SVETLAYA)) PEREVODKA(
   .NEPOSTOYANNAYA) REVERSED(CHELYUSTKA) SKAMEYTSA(KLYUCHENEPOSTOYANNAYA MRACHNAYA SVETLAYA TIKHAYA
   TRESVETLAYA DVOECHELNAYA(KLYUCHEVAYA NEPOSTOYANNAYA PROSTAYA SVETLAYA) KLYUCHEVAYA(SVETLAYA
   TIKHAYA)) SLOZHITIE(.ZAKRYTOE S(KRYZHEM ZAPYATOY)) STATYA(.NEPOSTOYANNAYA S(ROGOM DVUMYA(
   ZAPYATYMI) KRYZHEM(.I(ZAPYATOY)) ZAPYATOY(.I(KRYZHEM PODCHASHIEM))) ZAKRYTAYA(.S(ZAPYATOY)))
   STOPITSA(.S(OCHKOM) WITH(SOROCHYA(NOZHKA))) STRELA(DVOECHELNOKRYZHEVAYA KLYUCHENEPOSTOYANNAYA
   KLYUCHEPOVODNAYA KRYZHEVAYA MRACHNOTIKHAYA NEPOSTOYANNAYA POLUPOVODNAYA POVODNAYA PROSTAYA
   TRYASOGLASNAYA TRYASOPOVODNAYA TRYASOSTRELNAYA DVOECHELNAYA+DVOECHELNOPOVODNAYA(.KLYUCHEVAYA)
   GROMNAYA(.WITH(SINGLE(ZAPYATAYA))) GROMOKRYZHEVAYA(.POVODNAYA) GROMOPOVODNAYA(.WITH(DOUBLE+
   SINGLE(ZAPYATAYA))) KRYUKOVAYA(.POVODNAYA TRYASKA GROMNAYA(.WITH(SINGLE(ZAPYATAYA)))
   GROMOKRYZHEVAYA(.POVODNAYA) GROMOPOVODNAYA(.WITH(DOUBLE+SINGLE(ZAPYATAYA)))) TIKHAYA(PUTNAYA))
   VRAKHIYA(MRACHNAYA PROSTAYA SVETLAYA TRESVETLAYA KLYUCHEVAYA(MRACHNAYA PROSTAYA SVETLAYA
   TRESVETLAYA))) PRIZNAK(MODIFIER(KRYZH LEVEL-2~3 ROG DIRECTION(FLIP))))"

end NodeLint.Text
