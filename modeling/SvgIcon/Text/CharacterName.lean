import SvgIcon.Text.Blank
import SvgIcon.Text.Scan

/-!
Characters by name: controls, the letters of the European scripts, punctuation, symbols and emoji.
The names of all other characters are taken to be none.
-/

namespace SvgIcon
namespace Text

/-- The names.  Each entry has the words that a name begins with, and last words behind them. -/
def characterNames : String := "
=NULL,ENQUIRY,ACKNOWLEDGE,ALERT,BACKSPACE,CANCEL,SUBSTITUTE,ESCAPE,DELETE,INDEX,SINGLE-SHIFT-2
=SINGLE-SHIFT-3,NUL,SOH,STX,ETX,EOT,ENQ,ACK,BEL,BS,HT,TAB,LF,NL,EOL,VT,FF,CR,SO,SI,DLE,DC1,DC2,DC3
=DC4,NAK,SYN,ETB,CAN,EOM,SUB,ESC,FS,GS,RS,US,SP,DEL,PAD,HOP,BPH,NBH,IND,NEL,SSA,ESA,HTS,HTJ,VTS
=PLD,PLU,RI,SS2,SS3,DCS,PU1,PU2,STS,CCH,MW,SPA,EPA,SOS,SGC,SCI,CSI,ST,OSC,PM,APC,NBSP,SHY,CGJ,ZWSP
=ZWNJ,ZWJ,LRM,RLM,WJ,BOM,ZWNBSP,SPACE,AMPERSAND,APOSTROPHE,ASTERISK,COMMA,HYPHEN-MINUS,SOLIDUS
=COLON,SEMICOLON,TILDE,DIAERESIS,MACRON,CEDILLA,HYPHEN,DAGGER,BULLET,PRIME,CARET,INTERROBANG
=OVERLINE,UNDERTIE,ASTERISM,TRICOLON,SCRUPLE,RESPONSE,VERSICLE,AKTIESELSKAB,COMPLEMENT,INCREMENT
=NABLA,INFINITY,ANGLE,DIVIDES,INTERSECTION,UNION,INTEGRAL,THEREFORE,BECAUSE,RATIO,PROPORTION
=EXCESS,HOMOTHETIC,ESTIMATES,BETWEEN,PRECEDES,SUCCEEDS,MULTISET,ASSERTION,MODELS,TRUE,FORCES
=MULTIMAP,INTERCALATE,XOR,NAND,NOR,BOWTIE,PITCHFORK,FISHEYE,LOZENGE,BULLSEYE,CLOUD,UMBRELLA
=SNOWMAN,COMET,LIGHTNING,THUNDERSTORM,SUN,CONJUNCTION,OPPOSITION,SALTIRE,SHAMROCK,CADUCEUS,ANKH
=MERCURY,EARTH,JUPITER,SATURN,URANUS,NEPTUNE,PLUTO,ARIES,TAURUS,GEMINI,CANCER,LEO,VIRGO,LIBRA
=SCORPIUS,SAGITTARIUS,CAPRICORN,AQUARIUS,PISCES,ANCHOR,SCALES,ALEMBIC,FLOWER,GEAR,FLEUR-DE-LIS
=COFFIN,NEUTER,CERES,PALLAS,JUNO,VESTA,CHIRON,SEXTILE,SEMISEXTILE,QUINCUNX,SESQUIQUADRATE,BASEBALL
=RAIN,OPHIUCHUS,PICK,CHAINS,PENTAGRAM,CHURCH,CASTLE,MOUNTAIN,FOUNTAIN,FERRY,SAILBOAT,SKIER,TENT
=AIRPLANE,ENVELOPE,PENCIL,SPARKLES,SNOWFLAKE,SPARKLE,CYCLONE,FOGGY,SUNRISE,RAINBOW,VOLCANO
=THERMOMETER,FOG,TACO,BURRITO,CHESTNUT,SEEDLING,CACTUS,TULIP,ROSE,HIBISCUS,SUNFLOWER,BLOSSOM,HERB
=MUSHROOM,TOMATO,AUBERGINE,GRAPES,MELON,WATERMELON,TANGERINE,LEMON,BANANA,PINEAPPLE,PEAR,PEACH
=CHERRIES,STRAWBERRY,HAMBURGER,SPAGHETTI,BREAD,DANGO,ODEN,SUSHI,DOUGHNUT,COOKIE,CANDY,LOLLIPOP
=CUSTARD,SHORTCAKE,COOKING,POPCORN,RIBBON,JACK-O-LANTERN,FIREWORKS,BALLOON,MICROPHONE,CINEMA
=HEADPHONE,TICKET,BILLIARDS,BOWLING,SAXOPHONE,GUITAR,TRUMPET,VIOLIN,SNOWBOARDER,RUNNER,SURFER
=TROPHY,SWIMMER,GOLFER,VOLLEYBALL,CAMPING,CITYSCAPE,DESERT,STADIUM,HOSPITAL,BANK,HOTEL,SCHOOL
=FACTORY,ROSETTE,LABEL,AMPHORA,RAT,MOUSE,OX,COW,TIGER,LEOPARD,RABBIT,CAT,DRAGON,CROCODILE,WHALE
=SNAIL,SNAKE,HORSE,RAM,GOAT,SHEEP,MONKEY,ROOSTER,CHICKEN,DOG,PIG,BOAR,ELEPHANT,OCTOPUS,BUG,ANT
=HONEYBEE,FISH,BLOWFISH,TURTLE,BIRD,PENGUIN,KOALA,POODLE,DOLPHIN,CHIPMUNK,EYES,EYE,EAR,NOSE,MOUTH
=TONGUE,CROWN,EYEGLASSES,NECKTIE,T-SHIRT,JEANS,DRESS,KIMONO,BIKINI,PURSE,HANDBAG,POUCH,FOOTPRINTS
=BOY,GIRL,MAN,WOMAN,FAMILY,BABY,PRINCESS,GHOST,IMP,SKULL,GUARDSMAN,DANCER,LIPSTICK,HAIRCUT,SYRINGE
=PILL,RING,KISS,BOUQUET,WEDDING,BOMB,DROPLET,SEAT,BRIEFCASE,MINIDISC,DVD,CALENDAR,CLIPBOARD
=PUSHPIN,PAPERCLIP,LEDGER,NOTEBOOK,BOOKS,SCROLL,MEMO,PAGER,PACKAGE,POSTBOX,NEWSPAPER,CAMERA
=TELEVISION,RADIO,VIDEOCASSETTE,SPEAKER,BATTERY,KEY,LOCK,BELL,BOOKMARK,FIRE,WRENCH,HAMMER,HOCHO
=PISTOL,MICROSCOPE,TELESCOPE,KAABA,MOSQUE,SYNAGOGUE,BULLHORN,BOOK,CANDLE,HOLE,SPIDER,JOYSTICK
=PRINTER,TRACKBALL,SCREEN,FOLDER,NOTE,DOCUMENT,PAGE,PAGES,WASTEBASKET,MINIMIZE,MAXIMIZE,OVERLAP
=COMPRESSION,LIPS,MOYAI,ROCKET,HELICOPTER,TRAIN,METRO,STATION,TRAM,BUS,TROLLEYBUS,MINIBUS
=AMBULANCE,TAXI,AUTOMOBILE,TRACTOR,MONORAIL,SHIP,ROWBOAT,SPEEDBOAT,DOOR,BICYCLE,BICYCLIST
=PEDESTRIAN,RESTROOM,TOILET,SHOWER,BATH,BATHTUB,CUSTOMS,BED,STUPA,PAGODA,HUT,ELEVATOR,WHEEL,SHIELD
=MOTORWAY,SATELLITE,SCOOTER,CANOE,SLED,SKATEBOARD START_OF=HEADING,TEXT,STRING
END_OF=TEXT,TRANSMISSION,LINE,MEDIUM,PROOF CHARACTER=TABULATION,TIE
HORIZONTAL=TABULATION,BAR,ELLIPSIS LINE=FEED,TABULATION,SEPARATOR NEW=LINE
VERTICAL=TABULATION,LINE,ELLIPSIS FORM=FEED CARRIAGE=RETURN SHIFT=OUT,IN LOCKING-SHIFT=ONE,ZERO
DATA_LINK=ESCAPE DEVICE_CONTROL=ONE,TWO,THREE,FOUR,STRING NEGATIVE=ACKNOWLEDGE SYNCHRONOUS=IDLE
END_OF_TRANSMISSION=BLOCK INFORMATION_SEPARATOR=FOUR,THREE,TWO,ONE FILE=SEPARATOR,FOLDER,CABINET
GROUP=SEPARATOR RECORD=SEPARATOR UNIT=SEPARATOR PADDING=CHARACTER HIGH_OCTET=PRESET
BREAK_PERMITTED=HERE NO_BREAK=HERE NEXT=LINE START_OF_SELECTED=AREA END_OF_SELECTED=AREA
CHARACTER_TABULATION=SET HORIZONTAL_TABULATION=SET CHARACTER_TABULATION_WITH=JUSTIFICATION
HORIZONTAL_TABULATION_WITH=JUSTIFICATION LINE_TABULATION=SET VERTICAL_TABULATION=SET
PARTIAL_LINE=FORWARD,DOWN,BACKWARD,UP REVERSE_LINE=FEED REVERSE=INDEX,SOLIDUS
SINGLE_SHIFT=TWO,THREE PRIVATE_USE=ONE,TWO PRIVATE=USE-1,USE-2 SET_TRANSMIT=STATE CANCEL=CHARACTER
MESSAGE=WAITING START_OF_GUARDED=AREA START_OF_PROTECTED=AREA END_OF_GUARDED=AREA
END_OF_PROTECTED=AREA SINGLE_GRAPHIC_CHARACTER=INTRODUCER SINGLE_CHARACTER=INTRODUCER
CONTROL_SEQUENCE=INTRODUCER STRING=TERMINATOR OPERATING_SYSTEM=COMMAND PRIVACY=MESSAGE
APPLICATION_PROGRAM=COMMAND BYTE_ORDER=MARK WEIERSTRASS_ELLIPTIC=FUNCTION MICR_DASH=SYMBOL
MICR_ON_US=SYMBOL
LATIN_SMALL_LETTER=GHA,A,B,C,D,E,F,G,H,I,J,K,L,M,N,O,P,Q,R,S,T,U,V,W,X,Y,Z,AE,ETH,THORN,KRA,ENG
LATIN_CAPITAL_LETTER=GHA,A,B,C,D,E,F,G,H,I,J,K,L,M,N,O,P,Q,R,S,T,U,V,W,X,Y,Z,AE,ETH,THORN,ENG
EXCLAMATION=MARK QUOTATION=MARK NUMBER=SIGN DOLLAR=SIGN PERCENT=SIGN LEFT=PARENTHESIS,TACK,LUGGAGE
RIGHT=PARENTHESIS,ANGLE,TACK,TRIANGLE,SPEAKER PLUS=SIGN FULL=STOP
DIGIT=ZERO,ONE,TWO,THREE,FOUR,FIVE,SIX,SEVEN,EIGHT,NINE LESS-THAN=SIGN EQUALS=SIGN,COLON
GREATER-THAN=SIGN QUESTION=MARK COMMERCIAL=AT LEFT_SQUARE=BRACKET RIGHT_SQUARE=BRACKET
CIRCUMFLEX=ACCENT LOW=LINE,ASTERISK GRAVE=ACCENT LEFT_CURLY=BRACKET RIGHT_CURLY=BRACKET
NO-BREAK=SPACE INVERTED_EXCLAMATION=MARK CENT=SIGN POUND=SIGN CURRENCY=SIGN,EXCHANGE YEN=SIGN
BROKEN=BAR,HEART SECTION=SIGN COPYRIGHT=SIGN FEMININE_ORDINAL=INDICATOR
LEFT-POINTING_DOUBLE_ANGLE_QUOTATION=MARK NOT=SIGN,TILDE,LESS-THAN,GREATER-THAN,TRUE SOFT=HYPHEN
REGISTERED=SIGN DEGREE=SIGN,CELSIUS,FAHRENHEIT PLUS-MINUS=SIGN SUPERSCRIPT=TWO,THREE,ONE
ACUTE=ACCENT MICRO=SIGN PILCROW=SIGN MIDDLE=DOT MASCULINE_ORDINAL=INDICATOR
RIGHT-POINTING_DOUBLE_ANGLE_QUOTATION=MARK
VULGAR_FRACTION_ONE=QUARTER,HALF,SEVENTH,NINTH,TENTH,THIRD,FIFTH,SIXTH,EIGHTH
VULGAR_FRACTION_THREE=QUARTERS,FIFTHS,EIGHTHS INVERTED_QUESTION=MARK
LATIN_CAPITAL_LETTER_A_WITH=GRAVE,ACUTE,CIRCUMFLEX,TILDE,DIAERESIS,MACRON,BREVE,OGONEK
LATIN_CAPITAL_LETTER_A_WITH_RING=ABOVE LATIN_CAPITAL_LETTER_C_WITH=CEDILLA,ACUTE,CIRCUMFLEX,CARON
LATIN_CAPITAL_LETTER_E_WITH=GRAVE,ACUTE,CIRCUMFLEX,DIAERESIS,MACRON,BREVE,OGONEK,CARON
LATIN_CAPITAL_LETTER_I_WITH=GRAVE,ACUTE,CIRCUMFLEX,DIAERESIS,TILDE,MACRON,BREVE,OGONEK
LATIN_CAPITAL_LETTER_N_WITH=TILDE,ACUTE,CEDILLA,CARON
LATIN_CAPITAL_LETTER_O_WITH=GRAVE,ACUTE,CIRCUMFLEX,TILDE,DIAERESIS,STROKE,MACRON,BREVE
MULTIPLICATION=SIGN,X
LATIN_CAPITAL_LETTER_U_WITH=GRAVE,ACUTE,CIRCUMFLEX,DIAERESIS,TILDE,MACRON,BREVE,OGONEK
LATIN_CAPITAL_LETTER_Y_WITH=ACUTE,CIRCUMFLEX,DIAERESIS LATIN_SMALL_LETTER_SHARP=S
LATIN_SMALL_LETTER_A_WITH=GRAVE,ACUTE,CIRCUMFLEX,TILDE,DIAERESIS,MACRON,BREVE,OGONEK
LATIN_SMALL_LETTER_A_WITH_RING=ABOVE LATIN_SMALL_LETTER_C_WITH=CEDILLA,ACUTE,CIRCUMFLEX,CARON
LATIN_SMALL_LETTER_E_WITH=GRAVE,ACUTE,CIRCUMFLEX,DIAERESIS,MACRON,BREVE,OGONEK,CARON
LATIN_SMALL_LETTER_I_WITH=GRAVE,ACUTE,CIRCUMFLEX,DIAERESIS,TILDE,MACRON,BREVE,OGONEK
LATIN_SMALL_LETTER_N_WITH=TILDE,ACUTE,CEDILLA,CARON
LATIN_SMALL_LETTER_O_WITH=GRAVE,ACUTE,CIRCUMFLEX,TILDE,DIAERESIS,STROKE,MACRON,BREVE
DIVISION=SIGN,SLASH,TIMES
LATIN_SMALL_LETTER_U_WITH=GRAVE,ACUTE,CIRCUMFLEX,DIAERESIS,TILDE,MACRON,BREVE,OGONEK
LATIN_SMALL_LETTER_Y_WITH=ACUTE,DIAERESIS,CIRCUMFLEX LATIN_CAPITAL_LETTER_C_WITH_DOT=ABOVE
LATIN_SMALL_LETTER_C_WITH_DOT=ABOVE LATIN_CAPITAL_LETTER_D_WITH=CARON,STROKE
LATIN_SMALL_LETTER_D_WITH=CARON,STROKE LATIN_CAPITAL_LETTER_E_WITH_DOT=ABOVE
LATIN_SMALL_LETTER_E_WITH_DOT=ABOVE LATIN_CAPITAL_LETTER_G_WITH=CIRCUMFLEX,BREVE,CEDILLA
LATIN_SMALL_LETTER_G_WITH=CIRCUMFLEX,BREVE,CEDILLA LATIN_CAPITAL_LETTER_G_WITH_DOT=ABOVE
LATIN_SMALL_LETTER_G_WITH_DOT=ABOVE LATIN_CAPITAL_LETTER_H_WITH=CIRCUMFLEX,STROKE
LATIN_SMALL_LETTER_H_WITH=CIRCUMFLEX,STROKE LATIN_CAPITAL_LETTER_I_WITH_DOT=ABOVE
LATIN_SMALL_LETTER_DOTLESS=I LATIN_CAPITAL_LIGATURE=IJ,OE LATIN_SMALL_LIGATURE=IJ,OE
LATIN_CAPITAL_LETTER_J_WITH=CIRCUMFLEX LATIN_SMALL_LETTER_J_WITH=CIRCUMFLEX
LATIN_CAPITAL_LETTER_K_WITH=CEDILLA LATIN_SMALL_LETTER_K_WITH=CEDILLA
LATIN_CAPITAL_LETTER_L_WITH=ACUTE,CEDILLA,CARON,STROKE
LATIN_SMALL_LETTER_L_WITH=ACUTE,CEDILLA,CARON,STROKE LATIN_CAPITAL_LETTER_L_WITH_MIDDLE=DOT
LATIN_SMALL_LETTER_L_WITH_MIDDLE=DOT LATIN_SMALL_LETTER_N_PRECEDED_BY=APOSTROPHE
LATIN_CAPITAL_LETTER_O_WITH_DOUBLE=ACUTE LATIN_SMALL_LETTER_O_WITH_DOUBLE=ACUTE
LATIN_CAPITAL_LETTER_R_WITH=ACUTE,CEDILLA,CARON LATIN_SMALL_LETTER_R_WITH=ACUTE,CEDILLA,CARON
LATIN_CAPITAL_LETTER_S_WITH=ACUTE,CIRCUMFLEX,CEDILLA,CARON
LATIN_SMALL_LETTER_S_WITH=ACUTE,CIRCUMFLEX,CEDILLA,CARON
LATIN_CAPITAL_LETTER_T_WITH=CEDILLA,CARON,STROKE LATIN_SMALL_LETTER_T_WITH=CEDILLA,CARON,STROKE
LATIN_CAPITAL_LETTER_U_WITH_RING=ABOVE LATIN_SMALL_LETTER_U_WITH_RING=ABOVE
LATIN_CAPITAL_LETTER_U_WITH_DOUBLE=ACUTE LATIN_SMALL_LETTER_U_WITH_DOUBLE=ACUTE
LATIN_CAPITAL_LETTER_W_WITH=CIRCUMFLEX LATIN_SMALL_LETTER_W_WITH=CIRCUMFLEX
LATIN_CAPITAL_LETTER_Z_WITH=ACUTE,CARON LATIN_SMALL_LETTER_Z_WITH=ACUTE,CARON
LATIN_CAPITAL_LETTER_Z_WITH_DOT=ABOVE LATIN_SMALL_LETTER_Z_WITH_DOT=ABOVE LATIN_SMALL_LETTER_LONG=S
GREEK_CAPITAL_LETTER=ALPHA,BETA,GAMMA,DELTA,EPSILON,ZETA,ETA,THETA,IOTA,KAPPA,LAMDA,MU,NU,XI
GREEK_CAPITAL_LETTER=OMICRON,PI,RHO,SIGMA,TAU,UPSILON,PHI,CHI,PSI,OMEGA
GREEK_CAPITAL_LETTER_IOTA_WITH=DIALYTIKA GREEK_CAPITAL_LETTER_UPSILON_WITH=DIALYTIKA
GREEK_SMALL_LETTER_ALPHA_WITH=TONOS GREEK_SMALL_LETTER_EPSILON_WITH=TONOS
GREEK_SMALL_LETTER_ETA_WITH=TONOS GREEK_SMALL_LETTER_IOTA_WITH=TONOS
GREEK_SMALL_LETTER_UPSILON_WITH_DIALYTIKA_AND=TONOS
GREEK_SMALL_LETTER=ALPHA,BETA,GAMMA,DELTA,EPSILON,ZETA,ETA,THETA,IOTA,KAPPA,LAMDA,MU,NU,XI,OMICRON
GREEK_SMALL_LETTER=PI,RHO,SIGMA,TAU,UPSILON,PHI,CHI,PSI,OMEGA GREEK_SMALL_LETTER_FINAL=SIGMA
CYRILLIC_CAPITAL_LETTER=A,BE,VE,GHE,DE,IE,ZHE,ZE,I,KA,EL,EM,EN,O,PE,ER,ES,TE,U,EF,HA,TSE,CHE,SHA
CYRILLIC_CAPITAL_LETTER=SHCHA,YERU,E,YU,YA CYRILLIC_CAPITAL_LETTER_SHORT=I
CYRILLIC_CAPITAL_LETTER_HARD=SIGN CYRILLIC_CAPITAL_LETTER_SOFT=SIGN
CYRILLIC_SMALL_LETTER=A,BE,VE,GHE,DE,IE,ZHE,ZE,I,KA,EL,EM,EN,O,PE,ER,ES,TE,U,EF,HA,TSE,CHE,SHA
CYRILLIC_SMALL_LETTER=SHCHA,YERU,E,YU,YA CYRILLIC_SMALL_LETTER_SHORT=I
CYRILLIC_SMALL_LETTER_HARD=SIGN CYRILLIC_SMALL_LETTER_SOFT=SIGN EN=QUAD,SPACE,DASH
EM=QUAD,SPACE,DASH THREE-PER-EM=SPACE FOUR-PER-EM=SPACE SIX-PER-EM=SPACE FIGURE=SPACE,DASH
PUNCTUATION=SPACE THIN=SPACE HAIR=SPACE ZERO_WIDTH=SPACE,NON-JOINER,JOINER
LEFT-TO-RIGHT=MARK,EMBEDDING,OVERRIDE,ISOLATE RIGHT-TO-LEFT=MARK,EMBEDDING,OVERRIDE,ISOLATE
NON-BREAKING=HYPHEN DOUBLE_VERTICAL=LINE DOUBLE_LOW=LINE LEFT_SINGLE_QUOTATION=MARK
RIGHT_SINGLE_QUOTATION=MARK SINGLE_LOW-9_QUOTATION=MARK SINGLE_HIGH-REVERSED-9_QUOTATION=MARK
LEFT_DOUBLE_QUOTATION=MARK RIGHT_DOUBLE_QUOTATION=MARK DOUBLE_LOW-9_QUOTATION=MARK
DOUBLE_HIGH-REVERSED-9_QUOTATION=MARK
DOUBLE=DAGGER,PRIME,INTEGRAL,SUBSET,SUPERSET,INTERSECTION,UNION TRIANGULAR=BULLET,RULER
ONE_DOT=LEADER TWO_DOT=LEADER,PUNCTUATION HYPHENATION=POINT PARAGRAPH=SEPARATOR
POP_DIRECTIONAL=FORMATTING,ISOLATE NARROW_NO-BREAK=SPACE PER_MILLE=SIGN PER_TEN_THOUSAND=SIGN
TRIPLE=PRIME,INTEGRAL,TILDE REVERSED=PRIME,SEMICOLON,TILDE REVERSED_DOUBLE=PRIME
REVERSED_TRIPLE=PRIME SINGLE_LEFT-POINTING_ANGLE_QUOTATION=MARK
SINGLE_RIGHT-POINTING_ANGLE_QUOTATION=MARK REFERENCE=MARK DOUBLE_EXCLAMATION=MARK
CARET_INSERTION=POINT HYPHEN=BULLET FRACTION=SLASH LEFT_SQUARE_BRACKET_WITH=QUILL
RIGHT_SQUARE_BRACKET_WITH=QUILL DOUBLE_QUESTION=MARK QUESTION_EXCLAMATION=MARK
EXCLAMATION_QUESTION=MARK TIRONIAN_SIGN=ET REVERSED_PILCROW=SIGN BLACK_LEFTWARDS=BULLET
BLACK_RIGHTWARDS=BULLET,ARROW,ARROWHEAD CLOSE=UP TWO_ASTERISKS_ALIGNED=VERTICALLY
COMMERCIAL_MINUS=SIGN SWUNG=DASH INVERTED=UNDERTIE,PENTAGRAM FLOWER_PUNCTUATION=MARK
THREE_DOT=PUNCTUATION QUADRUPLE=PRIME FOUR_DOT=PUNCTUATION,MARK FIVE_DOT=PUNCTUATION
DOTTED=CROSS,CIRCLE VERTICAL_FOUR=DOTS MEDIUM_MATHEMATICAL=SPACE WORD=JOINER FUNCTION=APPLICATION
INVISIBLE=TIMES,SEPARATOR,PLUS FIRST_STRONG=ISOLATE INHIBIT_SYMMETRIC=SWAPPING
ACTIVATE_SYMMETRIC=SWAPPING INHIBIT_ARABIC_FORM=SHAPING ACTIVATE_ARABIC_FORM=SHAPING
NATIONAL_DIGIT=SHAPES NOMINAL_DIGIT=SHAPES EURO-CURRENCY=SIGN COLON=SIGN,EQUALS CRUZEIRO=SIGN
FRENCH_FRANC=SIGN LIRA=SIGN MILL=SIGN NAIRA=SIGN PESETA=SIGN RUPEE=SIGN WON=SIGN NEW_SHEQEL=SIGN
DONG=SIGN EURO=SIGN KIP=SIGN TUGRIK=SIGN DRACHMA=SIGN GERMAN_PENNY=SIGN PESO=SIGN GUARANI=SIGN
AUSTRAL=SIGN HRYVNIA=SIGN CEDI=SIGN LIVRE_TOURNOIS=SIGN SPESMILO=SIGN TENGE=SIGN INDIAN_RUPEE=SIGN
TURKISH_LIRA=SIGN NORDIC_MARK=SIGN MANAT=SIGN RUBLE=SIGN LARI=SIGN BITCOIN=SIGN ACCOUNT=OF
ADDRESSED_TO_THE=SUBJECT DOUBLE-STRUCK_CAPITAL=C,H,N,P,Q,R,Z,GAMMA,PI CENTRE_LINE=SYMBOL CARE=OF
CADA=UNA EULER=CONSTANT SCRIPT_SMALL=G,L,E,O SCRIPT_CAPITAL=H,I,L,P,R,B,E,F,M
BLACK-LETTER_CAPITAL=H,I,R,Z,C PLANCK=CONSTANT PLANCK_CONSTANT_OVER_TWO=PI L_B_BAR=SYMBOL
NUMERO=SIGN SOUND_RECORDING=COPYRIGHT PRESCRIPTION=TAKE SERVICE=MARK TELEPHONE=SIGN,RECEIVER
TRADE_MARK=SIGN OUNCE=SIGN OHM=SIGN INVERTED_OHM=SIGN TURNED_GREEK_SMALL_LETTER=IOTA KELVIN=SIGN
ANGSTROM=SIGN ESTIMATED=SYMBOL TURNED_CAPITAL=F ALEF=SYMBOL BET=SYMBOL GIMEL=SYMBOL DALET=SYMBOL
INFORMATION=SOURCE ROTATED_CAPITAL=Q FACSIMILE=SIGN DOUBLE-STRUCK_SMALL=PI,GAMMA
DOUBLE-STRUCK_N-ARY=SUMMATION TURNED_SANS-SERIF_CAPITAL=G,L,Y REVERSED_SANS-SERIF_CAPITAL=L
DOUBLE-STRUCK_ITALIC_CAPITAL=D DOUBLE-STRUCK_ITALIC_SMALL=D,E,I,J PROPERTY=LINE TURNED=AMPERSAND
PER=SIGN TURNED_SMALL=F SYMBOL_FOR_SAMARITAN=SOURCE VULGAR_FRACTION_TWO=THIRDS,FIFTHS
VULGAR_FRACTION_FOUR=FIFTHS VULGAR_FRACTION_FIVE=SIXTHS,EIGHTHS VULGAR_FRACTION_SEVEN=EIGHTHS
FRACTION_NUMERATOR=ONE LEFTWARDS=ARROW UPWARDS=ARROW RIGHTWARDS=ARROW DOWNWARDS=ARROW
LEFT_RIGHT=ARROW UP_DOWN=ARROW NORTH_WEST=ARROW NORTH_EAST=ARROW SOUTH_EAST=ARROW SOUTH_WEST=ARROW
LEFTWARDS_ARROW_WITH=STROKE,TAIL,HOOK,LOOP RIGHTWARDS_ARROW_WITH=STROKE,TAIL,HOOK,LOOP
LEFTWARDS_WAVE=ARROW RIGHTWARDS_WAVE=ARROW LEFTWARDS_TWO_HEADED=ARROW UPWARDS_TWO_HEADED=ARROW
RIGHTWARDS_TWO_HEADED=ARROW DOWNWARDS_TWO_HEADED=ARROW LEFTWARDS_ARROW_FROM=BAR
UPWARDS_ARROW_FROM=BAR RIGHTWARDS_ARROW_FROM=BAR DOWNWARDS_ARROW_FROM=BAR UP_DOWN_ARROW_WITH=BASE
LEFT_RIGHT_WAVE=ARROW LEFT_RIGHT_ARROW_WITH=STROKE DOWNWARDS_ZIGZAG=ARROW
UPWARDS_ARROW_WITH_TIP=LEFTWARDS,RIGHTWARDS DOWNWARDS_ARROW_WITH_TIP=LEFTWARDS,RIGHTWARDS
RIGHTWARDS_ARROW_WITH_CORNER=DOWNWARDS DOWNWARDS_ARROW_WITH_CORNER=LEFTWARDS
ANTICLOCKWISE_TOP_SEMICIRCLE=ARROW CLOCKWISE_TOP_SEMICIRCLE=ARROW NORTH_WEST_ARROW_TO_LONG=BAR
LEFTWARDS_ARROW_TO_BAR_OVER_RIGHTWARDS_ARROW_TO=BAR ANTICLOCKWISE_OPEN_CIRCLE=ARROW
CLOCKWISE_OPEN_CIRCLE=ARROW LEFTWARDS_HARPOON_WITH_BARB=UPWARDS,DOWNWARDS
UPWARDS_HARPOON_WITH_BARB=RIGHTWARDS,LEFTWARDS RIGHTWARDS_HARPOON_WITH_BARB=UPWARDS,DOWNWARDS
DOWNWARDS_HARPOON_WITH_BARB=RIGHTWARDS,LEFTWARDS RIGHTWARDS_ARROW_OVER_LEFTWARDS=ARROW
UPWARDS_ARROW_LEFTWARDS_OF_DOWNWARDS=ARROW LEFTWARDS_ARROW_OVER_RIGHTWARDS=ARROW
LEFTWARDS_PAIRED=ARROWS UPWARDS_PAIRED=ARROWS RIGHTWARDS_PAIRED=ARROWS DOWNWARDS_PAIRED=ARROWS
LEFTWARDS_HARPOON_OVER_RIGHTWARDS=HARPOON RIGHTWARDS_HARPOON_OVER_LEFTWARDS=HARPOON
LEFTWARDS_DOUBLE_ARROW_WITH=STROKE LEFT_RIGHT_DOUBLE_ARROW_WITH=STROKE
RIGHTWARDS_DOUBLE_ARROW_WITH=STROKE LEFTWARDS_DOUBLE=ARROW UPWARDS_DOUBLE=ARROW
RIGHTWARDS_DOUBLE=ARROW DOWNWARDS_DOUBLE=ARROW LEFT_RIGHT_DOUBLE=ARROW UP_DOWN_DOUBLE=ARROW
NORTH_WEST_DOUBLE=ARROW NORTH_EAST_DOUBLE=ARROW SOUTH_EAST_DOUBLE=ARROW SOUTH_WEST_DOUBLE=ARROW
LEFTWARDS_TRIPLE=ARROW RIGHTWARDS_TRIPLE=ARROW LEFTWARDS_SQUIGGLE=ARROW RIGHTWARDS_SQUIGGLE=ARROW
UPWARDS_ARROW_WITH_DOUBLE=STROKE DOWNWARDS_ARROW_WITH_DOUBLE=STROKE LEFTWARDS_DASHED=ARROW
UPWARDS_DASHED=ARROW RIGHTWARDS_DASHED=ARROW DOWNWARDS_DASHED=ARROW LEFTWARDS_ARROW_TO=BAR
RIGHTWARDS_ARROW_TO=BAR LEFTWARDS_WHITE=ARROW UPWARDS_WHITE=ARROW RIGHTWARDS_WHITE=ARROW
DOWNWARDS_WHITE=ARROW UPWARDS_WHITE_ARROW_FROM=BAR UPWARDS_WHITE_ARROW_ON=PEDESTAL
UPWARDS_WHITE_ARROW_ON_PEDESTAL_WITH_HORIZONTAL=BAR
UPWARDS_WHITE_ARROW_ON_PEDESTAL_WITH_VERTICAL=BAR UPWARDS_WHITE_DOUBLE=ARROW
UPWARDS_WHITE_DOUBLE_ARROW_ON=PEDESTAL RIGHTWARDS_WHITE_ARROW_FROM=WALL NORTH_WEST_ARROW_TO=CORNER
SOUTH_EAST_ARROW_TO=CORNER UP_DOWN_WHITE=ARROW RIGHT_ARROW_WITH_SMALL=CIRCLE
DOWNWARDS_ARROW_LEFTWARDS_OF_UPWARDS=ARROW THREE_RIGHTWARDS=ARROWS
LEFTWARDS_ARROW_WITH_VERTICAL=STROKE RIGHTWARDS_ARROW_WITH_VERTICAL=STROKE
LEFT_RIGHT_ARROW_WITH_VERTICAL=STROKE LEFTWARDS_ARROW_WITH_DOUBLE_VERTICAL=STROKE
RIGHTWARDS_ARROW_WITH_DOUBLE_VERTICAL=STROKE LEFT_RIGHT_ARROW_WITH_DOUBLE_VERTICAL=STROKE
LEFTWARDS_OPEN-HEADED=ARROW RIGHTWARDS_OPEN-HEADED=ARROW LEFT_RIGHT_OPEN-HEADED=ARROW FOR=ALL
PARTIAL=DIFFERENTIAL THERE=EXISTS THERE_DOES_NOT=EXIST EMPTY=SET,NOTE,DOCUMENT,PAGE,PAGES
ELEMENT=OF NOT_AN_ELEMENT=OF SMALL_ELEMENT=OF CONTAINS_AS=MEMBER DOES_NOT_CONTAIN_AS=MEMBER
SMALL_CONTAINS_AS=MEMBER N-ARY=PRODUCT,COPRODUCT,SUMMATION,INTERSECTION,UNION MINUS=SIGN,TILDE
MINUS-OR-PLUS=SIGN DOT=PLUS,MINUS,OPERATOR SET=MINUS ASTERISK=OPERATOR RING=OPERATOR,BUOY
BULLET=OPERATOR SQUARE=ROOT,CAP,CUP CUBE=ROOT FOURTH=ROOT PROPORTIONAL=TO MEASURED=ANGLE,BY
SPHERICAL=ANGLE DOES_NOT=DIVIDE,PRECEDE,SUCCEED,PROVE,FORCE PARALLEL=TO NOT_PARALLEL=TO
LOGICAL=AND,OR CONTOUR=INTEGRAL SURFACE=INTEGRAL VOLUME=INTEGRAL CLOCKWISE=INTEGRAL
CLOCKWISE_CONTOUR=INTEGRAL ANTICLOCKWISE_CONTOUR=INTEGRAL GEOMETRIC=PROPORTION TILDE=OPERATOR
INVERTED_LAZY=S SINE=WAVE WREATH=PRODUCT ASYMPTOTICALLY_EQUAL=TO NOT_ASYMPTOTICALLY_EQUAL=TO
APPROXIMATELY_EQUAL=TO APPROXIMATELY_BUT_NOT_ACTUALLY_EQUAL=TO
NEITHER_APPROXIMATELY_NOR_ACTUALLY_EQUAL=TO ALMOST_EQUAL=TO NOT_ALMOST_EQUAL=TO
ALMOST_EQUAL_OR_EQUAL=TO ALL_EQUAL=TO EQUIVALENT=TO GEOMETRICALLY_EQUIVALENT=TO DIFFERENCE=BETWEEN
APPROACHES_THE=LIMIT GEOMETRICALLY_EQUAL=TO APPROXIMATELY_EQUAL_TO_OR_THE_IMAGE=OF
IMAGE_OF_OR_APPROXIMATELY_EQUAL=TO RING_IN_EQUAL=TO RING_EQUAL=TO CORRESPONDS=TO EQUIANGULAR=TO
STAR=EQUALS,OPERATOR DELTA_EQUAL=TO EQUAL_TO_BY=DEFINITION QUESTIONED_EQUAL=TO NOT_EQUAL=TO
IDENTICAL=TO NOT_IDENTICAL=TO STRICTLY_EQUIVALENT=TO LESS-THAN_OR_EQUAL=TO GREATER-THAN_OR_EQUAL=TO
LESS-THAN_OVER_EQUAL=TO GREATER-THAN_OVER_EQUAL=TO LESS-THAN_BUT_NOT_EQUAL=TO
GREATER-THAN_BUT_NOT_EQUAL=TO MUCH=LESS-THAN,GREATER-THAN NOT_EQUIVALENT=TO
NEITHER_LESS-THAN_NOR_EQUAL=TO NEITHER_GREATER-THAN_NOR_EQUAL=TO LESS-THAN_OR_EQUIVALENT=TO
GREATER-THAN_OR_EQUIVALENT=TO NEITHER_LESS-THAN_NOR_EQUIVALENT=TO
NEITHER_GREATER-THAN_NOR_EQUIVALENT=TO LESS-THAN_OR=GREATER-THAN GREATER-THAN_OR=LESS-THAN
NEITHER_LESS-THAN_NOR=GREATER-THAN NEITHER_GREATER-THAN_NOR=LESS-THAN PRECEDES_OR_EQUAL=TO
SUCCEEDS_OR_EQUAL=TO PRECEDES_OR_EQUIVALENT=TO SUCCEEDS_OR_EQUIVALENT=TO SUBSET=OF SUPERSET=OF
NOT_A_SUBSET=OF NOT_A_SUPERSET=OF SUBSET_OF_OR_EQUAL=TO SUPERSET_OF_OR_EQUAL=TO
NEITHER_A_SUBSET_OF_NOR_EQUAL=TO NEITHER_A_SUPERSET_OF_NOR_EQUAL=TO SUBSET_OF_WITH_NOT_EQUAL=TO
SUPERSET_OF_WITH_NOT_EQUAL=TO MULTISET=MULTIPLICATION,UNION SQUARE_IMAGE=OF SQUARE_ORIGINAL=OF
SQUARE_IMAGE_OF_OR_EQUAL=TO SQUARE_ORIGINAL_OF_OR_EQUAL=TO CIRCLED=PLUS,MINUS,TIMES,EQUALS,DASH
CIRCLED_DIVISION=SLASH CIRCLED_DOT=OPERATOR CIRCLED_RING=OPERATOR CIRCLED_ASTERISK=OPERATOR
SQUARED=PLUS,MINUS,TIMES,KEY,SALTIRE SQUARED_DOT=OPERATOR DOWN=TACK UP=TACK
TRIPLE_VERTICAL_BAR_RIGHT=TURNSTILE DOUBLE_VERTICAL_BAR_DOUBLE_RIGHT=TURNSTILE
NEGATED_DOUBLE_VERTICAL_BAR_DOUBLE_RIGHT=TURNSTILE PRECEDES_UNDER=RELATION SUCCEEDS_UNDER=RELATION
NORMAL_SUBGROUP=OF CONTAINS_AS_NORMAL=SUBGROUP NORMAL_SUBGROUP_OF_OR_EQUAL=TO
CONTAINS_AS_NORMAL_SUBGROUP_OR_EQUAL=TO ORIGINAL=OF IMAGE=OF HERMITIAN_CONJUGATE=MATRIX
RIGHT_ANGLE_WITH=ARC N-ARY_LOGICAL=AND,OR DIAMOND=OPERATOR LEFT_NORMAL_FACTOR_SEMIDIRECT=PRODUCT
RIGHT_NORMAL_FACTOR_SEMIDIRECT=PRODUCT LEFT_SEMIDIRECT=PRODUCT RIGHT_SEMIDIRECT=PRODUCT
REVERSED_TILDE=EQUALS CURLY_LOGICAL=OR,AND EQUAL_AND_PARALLEL=TO LESS-THAN_WITH=DOT
GREATER-THAN_WITH=DOT VERY_MUCH=LESS-THAN,GREATER-THAN LESS-THAN_EQUAL_TO_OR=GREATER-THAN
GREATER-THAN_EQUAL_TO_OR=LESS-THAN EQUAL_TO_OR=LESS-THAN,GREATER-THAN,PRECEDES,SUCCEEDS
DOES_NOT_PRECEDE_OR=EQUAL DOES_NOT_SUCCEED_OR=EQUAL NOT_SQUARE_IMAGE_OF_OR_EQUAL=TO
NOT_SQUARE_ORIGINAL_OF_OR_EQUAL=TO SQUARE_IMAGE_OF_OR_NOT_EQUAL=TO
SQUARE_ORIGINAL_OF_OR_NOT_EQUAL=TO LESS-THAN_BUT_NOT_EQUIVALENT=TO
GREATER-THAN_BUT_NOT_EQUIVALENT=TO PRECEDES_BUT_NOT_EQUIVALENT=TO SUCCEEDS_BUT_NOT_EQUIVALENT=TO
NOT_NORMAL_SUBGROUP=OF DOES_NOT_CONTAIN_AS_NORMAL=SUBGROUP NOT_NORMAL_SUBGROUP_OF_OR_EQUAL=TO
DOES_NOT_CONTAIN_AS_NORMAL_SUBGROUP_OR=EQUAL MIDLINE_HORIZONTAL=ELLIPSIS UP_RIGHT_DIAGONAL=ELLIPSIS
DOWN_RIGHT_DIAGONAL=ELLIPSIS ELEMENT_OF_WITH_LONG_HORIZONTAL=STROKE
ELEMENT_OF_WITH_VERTICAL_BAR_AT_END_OF_HORIZONTAL=STROKE
SMALL_ELEMENT_OF_WITH_VERTICAL_BAR_AT_END_OF_HORIZONTAL=STROKE ELEMENT_OF_WITH_DOT=ABOVE
ELEMENT_OF_WITH=OVERBAR,UNDERBAR SMALL_ELEMENT_OF_WITH=OVERBAR
ELEMENT_OF_WITH_TWO_HORIZONTAL=STROKES CONTAINS_WITH_LONG_HORIZONTAL=STROKE
CONTAINS_WITH_VERTICAL_BAR_AT_END_OF_HORIZONTAL=STROKE
SMALL_CONTAINS_WITH_VERTICAL_BAR_AT_END_OF_HORIZONTAL=STROKE CONTAINS_WITH=OVERBAR
SMALL_CONTAINS_WITH=OVERBAR Z_NOTATION_BAG=MEMBERSHIP
BLACK=SQUARE,RECTANGLE,PARALLELOGRAM,DIAMOND,CIRCLE,STAR,TELEPHONE,FLAG,SNOWMAN,TRUCK,SCISSORS,NIB
BLACK=FLORETTE,DROPLET,PENNANT,ROSETTE,PUSHPIN,HEART,FOLDER
WHITE=SQUARE,RECTANGLE,PARALLELOGRAM,DIAMOND,CIRCLE,BULLET,STAR,TELEPHONE,FLAG,SCISSORS,NIB
WHITE=FLORETTE,SUN,PENNANT,FLOWER WHITE_SQUARE_WITH_ROUNDED=CORNERS
WHITE_SQUARE_CONTAINING_BLACK_SMALL=SQUARE SQUARE_WITH_HORIZONTAL=FILL SQUARE_WITH_VERTICAL=FILL
SQUARE_WITH_ORTHOGONAL_CROSSHATCH=FILL SQUARE_WITH_UPPER_LEFT_TO_LOWER_RIGHT=FILL
SQUARE_WITH_UPPER_RIGHT_TO_LOWER_LEFT=FILL SQUARE_WITH_DIAGONAL_CROSSHATCH=FILL BLACK_SMALL=SQUARE
WHITE_SMALL=SQUARE BLACK_VERTICAL=RECTANGLE WHITE_VERTICAL=RECTANGLE BLACK_UP-POINTING=TRIANGLE
WHITE_UP-POINTING=TRIANGLE BLACK_UP-POINTING_SMALL=TRIANGLE WHITE_UP-POINTING_SMALL=TRIANGLE
BLACK_RIGHT-POINTING=TRIANGLE,POINTER WHITE_RIGHT-POINTING=TRIANGLE,POINTER
BLACK_RIGHT-POINTING_SMALL=TRIANGLE WHITE_RIGHT-POINTING_SMALL=TRIANGLE
BLACK_DOWN-POINTING=TRIANGLE WHITE_DOWN-POINTING=TRIANGLE BLACK_DOWN-POINTING_SMALL=TRIANGLE
WHITE_DOWN-POINTING_SMALL=TRIANGLE BLACK_LEFT-POINTING=TRIANGLE,POINTER
WHITE_LEFT-POINTING=TRIANGLE,POINTER BLACK_LEFT-POINTING_SMALL=TRIANGLE
WHITE_LEFT-POINTING_SMALL=TRIANGLE WHITE_DIAMOND_CONTAINING_BLACK_SMALL=DIAMOND
CIRCLE_WITH_VERTICAL=FILL CIRCLE_WITH_LEFT_HALF=BLACK CIRCLE_WITH_RIGHT_HALF=BLACK
CIRCLE_WITH_LOWER_HALF=BLACK CIRCLE_WITH_UPPER_HALF=BLACK CIRCLE_WITH_UPPER_RIGHT_QUADRANT=BLACK
CIRCLE_WITH_ALL_BUT_UPPER_LEFT_QUADRANT=BLACK LEFT_HALF_BLACK=CIRCLE RIGHT_HALF_BLACK=CIRCLE
INVERSE=BULLET INVERSE_WHITE=CIRCLE UPPER_HALF_INVERSE_WHITE=CIRCLE LOWER_HALF_INVERSE_WHITE=CIRCLE
UPPER_LEFT_QUADRANT_CIRCULAR=ARC UPPER_RIGHT_QUADRANT_CIRCULAR=ARC
LOWER_RIGHT_QUADRANT_CIRCULAR=ARC LOWER_LEFT_QUADRANT_CIRCULAR=ARC UPPER_HALF=CIRCLE
LOWER_HALF=CIRCLE BLACK_LOWER_RIGHT=TRIANGLE BLACK_LOWER_LEFT=TRIANGLE BLACK_UPPER_LEFT=TRIANGLE
BLACK_UPPER_RIGHT=TRIANGLE SQUARE_WITH_LEFT_HALF=BLACK SQUARE_WITH_RIGHT_HALF=BLACK
SQUARE_WITH_UPPER_LEFT_DIAGONAL_HALF=BLACK SQUARE_WITH_LOWER_RIGHT_DIAGONAL_HALF=BLACK
WHITE_SQUARE_WITH_VERTICAL_BISECTING=LINE WHITE_UP-POINTING_TRIANGLE_WITH=DOT
UP-POINTING_TRIANGLE_WITH_LEFT_HALF=BLACK UP-POINTING_TRIANGLE_WITH_RIGHT_HALF=BLACK LARGE=CIRCLE
WHITE_SQUARE_WITH_UPPER_LEFT=QUADRANT WHITE_SQUARE_WITH_LOWER_LEFT=QUADRANT
WHITE_SQUARE_WITH_LOWER_RIGHT=QUADRANT WHITE_SQUARE_WITH_UPPER_RIGHT=QUADRANT
WHITE_CIRCLE_WITH_UPPER_LEFT=QUADRANT WHITE_CIRCLE_WITH_LOWER_LEFT=QUADRANT
WHITE_CIRCLE_WITH_LOWER_RIGHT=QUADRANT WHITE_CIRCLE_WITH_UPPER_RIGHT=QUADRANT UPPER_LEFT=TRIANGLE
UPPER_RIGHT=TRIANGLE,PENCIL LOWER_LEFT=TRIANGLE,PENCIL,PAINTBRUSH,CRAYON WHITE_MEDIUM=SQUARE
BLACK_MEDIUM=SQUARE WHITE_MEDIUM_SMALL=SQUARE BLACK_MEDIUM_SMALL=SQUARE LOWER_RIGHT=TRIANGLE,PENCIL
BLACK_SUN_WITH=RAYS ASCENDING=NODE DESCENDING=NODE BALLOT=BOX,X BALLOT_BOX_WITH=CHECK,X,BALLOT
UMBRELLA_WITH_RAIN=DROPS HOT=BEVERAGE,SPRINGS,DOG,PEPPER WHITE_SHOGI=PIECE BLACK_SHOGI=PIECE
REVERSED_ROTATED_FLORAL_HEART=BULLET BLACK_LEFT_POINTING=INDEX BLACK_RIGHT_POINTING=INDEX
WHITE_LEFT_POINTING=INDEX WHITE_UP_POINTING=INDEX WHITE_RIGHT_POINTING=INDEX
WHITE_DOWN_POINTING=INDEX SKULL_AND=CROSSBONES CAUTION=SIGN RADIOACTIVE=SIGN BIOHAZARD=SIGN
ORTHODOX=CROSS CHI=RHO CROSS_OF=LORRAINE,JERUSALEM STAR_AND=CRESCENT FARSI=SYMBOL ADI=SHAKTI
HAMMER_AND=SICKLE,PICK,WRENCH PEACE=SYMBOL YIN=YANG
TRIGRAM_FOR=HEAVEN,LAKE,FIRE,THUNDER,WIND,WATER,MOUNTAIN,EARTH WHEEL_OF=DHARMA WHITE_FROWNING=FACE
WHITE_SMILING=FACE BLACK_SMILING=FACE WHITE_SUN_WITH=RAYS FIRST_QUARTER=MOON LAST_QUARTER=MOON
FEMALE=SIGN MALE=SIGN WHITE_CHESS=KING,QUEEN,ROOK,BISHOP,KNIGHT,PAWN
BLACK_CHESS=KING,QUEEN,ROOK,BISHOP,KNIGHT,PAWN BLACK_SPADE=SUIT WHITE_HEART=SUIT WHITE_DIAMOND=SUIT
BLACK_CLUB=SUIT WHITE_SPADE=SUIT BLACK_HEART=SUIT BLACK_DIAMOND=SUIT WHITE_CLUB=SUIT QUARTER=NOTE
EIGHTH=NOTE BEAMED_EIGHTH=NOTES BEAMED_SIXTEENTH=NOTES MUSIC_FLAT=SIGN MUSIC_NATURAL=SIGN
MUSIC_SHARP=SIGN WEST_SYRIAC=CROSS EAST_SYRIAC=CROSS UNIVERSAL_RECYCLING=SYMBOL
RECYCLING_SYMBOL_FOR_TYPE-1=PLASTICS RECYCLING_SYMBOL_FOR_TYPE-2=PLASTICS
RECYCLING_SYMBOL_FOR_TYPE-3=PLASTICS RECYCLING_SYMBOL_FOR_TYPE-4=PLASTICS
RECYCLING_SYMBOL_FOR_TYPE-5=PLASTICS RECYCLING_SYMBOL_FOR_TYPE-6=PLASTICS
RECYCLING_SYMBOL_FOR_TYPE-7=PLASTICS RECYCLING_SYMBOL_FOR_GENERIC=MATERIALS
BLACK_UNIVERSAL_RECYCLING=SYMBOL RECYCLED_PAPER=SYMBOL PARTIALLY-RECYCLED_PAPER=SYMBOL
PERMANENT_PAPER=SIGN WHEELCHAIR=SYMBOL DIE=FACE-1,FACE-2,FACE-3,FACE-4,FACE-5,FACE-6
WHITE_CIRCLE_WITH_DOT=RIGHT WHITE_CIRCLE_WITH_TWO=DOTS BLACK_CIRCLE_WITH_WHITE_DOT=RIGHT
BLACK_CIRCLE_WITH_TWO_WHITE=DOTS MONOGRAM_FOR=YANG,YIN DIGRAM_FOR_GREATER=YANG,YIN
DIGRAM_FOR_LESSER=YIN,YANG CROSSED=SWORDS,FLAGS STAFF_OF=AESCULAPIUS,HERMES ATOM=SYMBOL
OUTLINED_WHITE=STAR THREE_LINES_CONVERGING=RIGHT,LEFT WARNING=SIGN HIGH_VOLTAGE=SIGN
DOUBLED_FEMALE=SIGN DOUBLED_MALE=SIGN INTERLOCKED_FEMALE_AND_MALE=SIGN MALE_AND_FEMALE=SIGN
MALE_WITH_STROKE=SIGN MALE_WITH_STROKE_AND_MALE_AND_FEMALE=SIGN VERTICAL_MALE_WITH_STROKE=SIGN
HORIZONTAL_MALE_WITH_STROKE=SIGN MEDIUM_WHITE=CIRCLE MEDIUM_BLACK=CIRCLE MEDIUM_SMALL_WHITE=CIRCLE
MARRIAGE=SYMBOL DIVORCE=SYMBOL UNMARRIED_PARTNERSHIP=SYMBOL FUNERAL=URN BLACK_MOON=LILITH
SOCCER=BALL WHITE_DRAUGHTS=MAN,KING BLACK_DRAUGHTS=MAN,KING SNOWMAN_WITHOUT=SNOW SUN_BEHIND=CLOUD
THUNDER_CLOUD_AND=RAIN TURNED_WHITE_SHOGI=PIECE TURNED_BLACK_SHOGI=PIECE WHITE_DIAMOND_IN=SQUARE
CROSSING=LANES DISABLED=CAR CAR=SLIDING HELMET_WITH_WHITE=CROSS CIRCLED_CROSSING=LANES
NO=ENTRY,PIRACY,BICYCLES,PEDESTRIANS ALTERNATE_ONE-WAY_LEFT_WAY=TRAFFIC
BLACK_TWO-WAY_LEFT_WAY=TRAFFIC WHITE_TWO-WAY_LEFT_WAY=TRAFFIC BLACK_LEFT_LANE=MERGE
WHITE_LEFT_LANE=MERGE DRIVE_SLOW=SIGN HEAVY_WHITE_DOWN-POINTING=TRIANGLE LEFT_CLOSED=ENTRY
FALLING_DIAGONAL_IN_WHITE_CIRCLE_IN_BLACK=SQUARE RESTRICTED_LEFT=ENTRY-1,ENTRY-2
ASTRONOMICAL_SYMBOL_FOR=URANUS HEAVY_CIRCLE_WITH_STROKE_AND_TWO_DOTS=ABOVE
RIGHT-HANDED_INTERLACED=PENTAGRAM LEFT-HANDED_INTERLACED=PENTAGRAM BLACK_CROSS_ON=SHIELD
SHINTO=SHRINE HISTORIC=SITE GEAR_WITHOUT=HUB GEAR_WITH=HANDLES MAP_SYMBOL_FOR=LIGHTHOUSE
UMBRELLA_ON=GROUND FLAG_IN=HOLE SQUARE_FOUR=CORNERS ICE=SKATE,CREAM PERSON_WITH=BALL
JAPANESE_BANK=SYMBOL HEADSTONE_GRAVEYARD=SYMBOL FUEL=PUMP CUP_ON_BLACK=SQUARE
WHITE_FLAG_WITH_HORIZONTAL_MIDDLE_BLACK=STRIPE BLACK_SAFETY=SCISSORS UPPER_BLADE=SCISSORS
LOWER_BLADE=SCISSORS WHITE_HEAVY_CHECK=MARK TELEPHONE_LOCATION=SIGN TAPE=DRIVE,CARTRIDGE
RAISED=FIST,HAND VICTORY=HAND WRITING=HAND CHECK=MARK HEAVY_CHECK=MARK HEAVY_MULTIPLICATION=X
HEAVY_BALLOT=X OUTLINED_GREEK=CROSS HEAVY_GREEK=CROSS OPEN_CENTRE=CROSS,ASTERISK
HEAVY_OPEN_CENTRE=CROSS LATIN=CROSS SHADOWED_WHITE_LATIN=CROSS OUTLINED_LATIN=CROSS MALTESE=CROSS
STAR_OF=DAVID FOUR_TEARDROP-SPOKED=ASTERISK FOUR_BALLOON-SPOKED=ASTERISK
HEAVY_FOUR_BALLOON-SPOKED=ASTERISK FOUR_CLUB-SPOKED=ASTERISK BLACK_FOUR_POINTED=STAR
WHITE_FOUR_POINTED=STAR STRESS_OUTLINED_WHITE=STAR CIRCLED_WHITE=STAR OPEN_CENTRE_BLACK=STAR
BLACK_CENTRE_WHITE=STAR OUTLINED_BLACK=STAR HEAVY_OUTLINED_BLACK=STAR PINWHEEL=STAR
SHADOWED_WHITE=STAR,CIRCLE HEAVY=ASTERISK,SPARKLE EIGHT_SPOKED=ASTERISK EIGHT_POINTED_BLACK=STAR
EIGHT_POINTED_PINWHEEL=STAR SIX_POINTED_BLACK=STAR EIGHT_POINTED_RECTILINEAR_BLACK=STAR
HEAVY_EIGHT_POINTED_RECTILINEAR_BLACK=STAR TWELVE_POINTED_BLACK=STAR SIXTEEN_POINTED=ASTERISK
TEARDROP-SPOKED=ASTERISK OPEN_CENTRE_TEARDROP-SPOKED=ASTERISK HEAVY_TEARDROP-SPOKED=ASTERISK
SIX_PETALLED_BLACK_AND_WHITE=FLORETTE EIGHT_PETALLED_OUTLINED_BLACK=FLORETTE
CIRCLED_OPEN_CENTRE_EIGHT_POINTED=STAR HEAVY_TEARDROP-SPOKED_PINWHEEL=ASTERISK
TIGHT_TRIFOLIATE=SNOWFLAKE HEAVY_CHEVRON=SNOWFLAKE BALLOON-SPOKED=ASTERISK
EIGHT_TEARDROP-SPOKED_PROPELLER=ASTERISK HEAVY_EIGHT_TEARDROP-SPOKED_PROPELLER=ASTERISK
CROSS=MARK,POMMEE NEGATIVE_SQUARED_CROSS=MARK LOWER_RIGHT_DROP-SHADOWED_WHITE=SQUARE
UPPER_RIGHT_DROP-SHADOWED_WHITE=SQUARE LOWER_RIGHT_SHADOWED_WHITE=SQUARE,CIRCLE
UPPER_RIGHT_SHADOWED_WHITE=SQUARE,CIRCLE BLACK_QUESTION_MARK=ORNAMENT WHITE_QUESTION_MARK=ORNAMENT
WHITE_EXCLAMATION_MARK=ORNAMENT BLACK_DIAMOND_MINUS_WHITE=X HEAVY_EXCLAMATION_MARK=SYMBOL,ORNAMENT
LIGHT_VERTICAL=BAR MEDIUM_VERTICAL=BAR HEAVY_VERTICAL=BAR
HEAVY_SINGLE_TURNED_COMMA_QUOTATION_MARK=ORNAMENT HEAVY_SINGLE_COMMA_QUOTATION_MARK=ORNAMENT
HEAVY_DOUBLE_TURNED_COMMA_QUOTATION_MARK=ORNAMENT HEAVY_DOUBLE_COMMA_QUOTATION_MARK=ORNAMENT
HEAVY_LOW_SINGLE_COMMA_QUOTATION_MARK=ORNAMENT HEAVY_LOW_DOUBLE_COMMA_QUOTATION_MARK=ORNAMENT
CURVED_STEM_PARAGRAPH_SIGN=ORNAMENT HEAVY_HEART_EXCLAMATION_MARK=ORNAMENT HEAVY_BLACK=HEART
ROTATED_HEAVY_BLACK_HEART=BULLET FLORAL=HEART ROTATED_FLORAL_HEART=BULLET
MEDIUM_LEFT_PARENTHESIS=ORNAMENT MEDIUM_RIGHT_PARENTHESIS=ORNAMENT
MEDIUM_FLATTENED_LEFT_PARENTHESIS=ORNAMENT MEDIUM_FLATTENED_RIGHT_PARENTHESIS=ORNAMENT
MEDIUM_LEFT-POINTING_ANGLE_BRACKET=ORNAMENT MEDIUM_RIGHT-POINTING_ANGLE_BRACKET=ORNAMENT
HEAVY_LEFT-POINTING_ANGLE_QUOTATION_MARK=ORNAMENT
HEAVY_RIGHT-POINTING_ANGLE_QUOTATION_MARK=ORNAMENT HEAVY_LEFT-POINTING_ANGLE_BRACKET=ORNAMENT
HEAVY_RIGHT-POINTING_ANGLE_BRACKET=ORNAMENT LIGHT_LEFT_TORTOISE_SHELL_BRACKET=ORNAMENT
LIGHT_RIGHT_TORTOISE_SHELL_BRACKET=ORNAMENT MEDIUM_LEFT_CURLY_BRACKET=ORNAMENT
MEDIUM_RIGHT_CURLY_BRACKET=ORNAMENT
DINGBAT_NEGATIVE_CIRCLED_DIGIT=ONE,TWO,THREE,FOUR,FIVE,SIX,SEVEN,EIGHT,NINE
DINGBAT_NEGATIVE_CIRCLED_NUMBER=TEN
DINGBAT_CIRCLED_SANS-SERIF_DIGIT=ONE,TWO,THREE,FOUR,FIVE,SIX,SEVEN,EIGHT,NINE
DINGBAT_CIRCLED_SANS-SERIF_NUMBER=TEN
DINGBAT_NEGATIVE_CIRCLED_SANS-SERIF_DIGIT=ONE,TWO,THREE,FOUR,FIVE,SIX,SEVEN,EIGHT,NINE
DINGBAT_NEGATIVE_CIRCLED_SANS-SERIF_NUMBER=TEN HEAVY_WIDE-HEADED_RIGHTWARDS=ARROW HEAVY_PLUS=SIGN
HEAVY_MINUS=SIGN HEAVY_DIVISION=SIGN HEAVY_SOUTH_EAST=ARROW HEAVY_RIGHTWARDS=ARROW
HEAVY_NORTH_EAST=ARROW DRAFTING_POINT_RIGHTWARDS=ARROW HEAVY_ROUND-TIPPED_RIGHTWARDS=ARROW
TRIANGLE-HEADED_RIGHTWARDS=ARROW HEAVY_TRIANGLE-HEADED_RIGHTWARDS=ARROW
DASHED_TRIANGLE-HEADED_RIGHTWARDS=ARROW HEAVY_DASHED_TRIANGLE-HEADED_RIGHTWARDS=ARROW
THREE-D_TOP-LIGHTED_RIGHTWARDS=ARROWHEAD THREE-D_BOTTOM-LIGHTED_RIGHTWARDS=ARROWHEAD
HEAVY_BLACK_CURVED_DOWNWARDS_AND_RIGHTWARDS=ARROW HEAVY_BLACK_CURVED_UPWARDS_AND_RIGHTWARDS=ARROW
SQUAT_BLACK_RIGHTWARDS=ARROW HEAVY_CONCAVE-POINTED_BLACK_RIGHTWARDS=ARROW
RIGHT-SHADED_WHITE_RIGHTWARDS=ARROW LEFT-SHADED_WHITE_RIGHTWARDS=ARROW
BACK-TILTED_SHADOWED_WHITE_RIGHTWARDS=ARROW FRONT-TILTED_SHADOWED_WHITE_RIGHTWARDS=ARROW
HEAVY_LOWER_RIGHT-SHADOWED_WHITE_RIGHTWARDS=ARROW HEAVY_UPPER_RIGHT-SHADOWED_WHITE_RIGHTWARDS=ARROW
NOTCHED_LOWER_RIGHT-SHADOWED_WHITE_RIGHTWARDS=ARROW CURLY=LOOP
NOTCHED_UPPER_RIGHT-SHADOWED_WHITE_RIGHTWARDS=ARROW CIRCLED_HEAVY_WHITE_RIGHTWARDS=ARROW
WHITE-FEATHERED_RIGHTWARDS=ARROW BLACK-FEATHERED_SOUTH_EAST=ARROW BLACK-FEATHERED_RIGHTWARDS=ARROW
BLACK-FEATHERED_NORTH_EAST=ARROW HEAVY_BLACK-FEATHERED_SOUTH_EAST=ARROW
HEAVY_BLACK-FEATHERED_RIGHTWARDS=ARROW HEAVY_BLACK-FEATHERED_NORTH_EAST=ARROW
TEARDROP-BARBED_RIGHTWARDS=ARROW HEAVY_TEARDROP-SHANKED_RIGHTWARDS=ARROW
WEDGE-TAILED_RIGHTWARDS=ARROW HEAVY_WEDGE-TAILED_RIGHTWARDS=ARROW OPEN-OUTLINED_RIGHTWARDS=ARROW
DOUBLE_CURLY=LOOP IDEOGRAPHIC=SPACE,COMMA IDEOGRAPHIC_FULL=STOP DITTO=MARK CLOSED=UMBRELLA,BOOK
NIGHT_WITH=STARS SUNRISE_OVER=MOUNTAINS CITYSCAPE_AT=DUSK SUNSET_OVER=BUILDINGS BRIDGE_AT=NIGHT
WATER=WAVE,BUFFALO,CLOSET MILKY=WAY EARTH_GLOBE=EUROPE-AFRICA,AMERICAS,ASIA-AUSTRALIA
GLOBE_WITH=MERIDIANS NEW_MOON=SYMBOL WAXING_CRESCENT_MOON=SYMBOL FIRST_QUARTER_MOON=SYMBOL
WAXING_GIBBOUS_MOON=SYMBOL FULL_MOON=SYMBOL WANING_GIBBOUS_MOON=SYMBOL LAST_QUARTER_MOON=SYMBOL
WANING_CRESCENT_MOON=SYMBOL CRESCENT=MOON NEW_MOON_WITH=FACE FIRST_QUARTER_MOON_WITH=FACE
LAST_QUARTER_MOON_WITH=FACE FULL_MOON_WITH=FACE SUN_WITH=FACE GLOWING=STAR SHOOTING=STAR
WHITE_SUN_WITH_SMALL=CLOUD WHITE_SUN_BEHIND=CLOUD WHITE_SUN_BEHIND_CLOUD_WITH=RAIN
CLOUD_WITH=RAIN,SNOW,LIGHTNING,TORNADO WIND_BLOWING=FACE EVERGREEN=TREE DECIDUOUS=TREE PALM=TREE
CHERRY=BLOSSOM EAR_OF=MAIZE,RICE FOUR_LEAF=CLOVER MAPLE=LEAF FALLEN=LEAF LEAF_FLUTTERING_IN=WIND
RED=APPLE GREEN=APPLE,HEART,BOOK SLICE_OF=PIZZA MEAT_ON=BONE POULTRY=LEG RICE=CRACKER,BALL
COOKED=RICE CURRY_AND=RICE STEAMING=BOWL FRENCH=FRIES ROASTED_SWEET=POTATO FRIED=SHRIMP
FISH_CAKE_WITH_SWIRL=DESIGN SOFT_ICE=CREAM SHAVED=ICE CHOCOLATE=BAR HONEY=POT BENTO=BOX POT_OF=FOOD
FORK_AND=KNIFE TEACUP_WITHOUT=HANDLE SAKE_BOTTLE_AND=CUP WINE=GLASS COCKTAIL=GLASS
TROPICAL=DRINK,FISH BEER=MUG CLINKING_BEER=MUGS BABY=BOTTLE,CHICK,ANGEL,SYMBOL
FORK_AND_KNIFE_WITH=PLATE BOTTLE_WITH_POPPING=CORK WRAPPED=PRESENT BIRTHDAY=CAKE CHRISTMAS=TREE
FATHER=CHRISTMAS FIREWORK=SPARKLER PARTY=POPPER CONFETTI=BALL TANABATA=TREE PINE=DECORATION
JAPANESE=DOLLS,CASTLE,OGRE,GOBLIN CARP=STREAMER WIND=CHIME MOON_VIEWING=CEREMONY SCHOOL=SATCHEL
GRADUATION=CAP HEART_WITH_TIP_ON_THE=LEFT BOUQUET_OF=FLOWERS MILITARY=MEDAL REMINDER=RIBBON
MUSICAL_KEYBOARD_WITH=JACKS STUDIO=MICROPHONE LEVEL=SLIDER CONTROL=KNOBS
BEAMED_ASCENDING_MUSICAL=NOTES BEAMED_DESCENDING_MUSICAL=NOTES FILM=FRAMES,PROJECTOR
ADMISSION=TICKETS CAROUSEL=HORSE FERRIS=WHEEL ROLLER=COASTER,SKATE FISHING_POLE_AND=FISH
MOVIE=CAMERA ARTIST=PALETTE TOP=HAT CIRCUS=TENT CLAPPER=BOARD PERFORMING=ARTS VIDEO=GAME,CAMERA
DIRECT=HIT SLOT=MACHINE GAME=DIE FLOWER_PLAYING=CARDS MUSICAL=NOTE,KEYBOARD,SCORE
MULTIPLE_MUSICAL=NOTES RUNNING_SHIRT_WITH=SASH TENNIS_RACQUET_AND=BALL SKI_AND_SKI=BOOT
BASKETBALL_AND=HOOP CHEQUERED=FLAG SPORTS=MEDAL HORSE=RACING,FACE AMERICAN=FOOTBALL RUGBY=FOOTBALL
WEIGHT=LIFTER RACING=MOTORCYCLE,CAR CRICKET_BAT_AND=BALL FIELD_HOCKEY_STICK_AND=BALL
ICE_HOCKEY_STICK_AND=PUCK TABLE_TENNIS_PADDLE_AND=BALL SNOW_CAPPED=MOUNTAIN BEACH_WITH=UMBRELLA
BUILDING=CONSTRUCTION HOUSE=BUILDINGS,BUILDING DERELICT_HOUSE=BUILDING CLASSICAL=BUILDING
DESERT=ISLAND NATIONAL=PARK HOUSE_WITH=GARDEN OFFICE=BUILDING JAPANESE_POST=OFFICE
EUROPEAN_POST=OFFICE AUTOMATED_TELLER=MACHINE LOVE=HOTEL,LETTER CONVENIENCE=STORE DEPARTMENT=STORE
IZAKAYA=LANTERN EUROPEAN=CASTLE WAVING_WHITE=FLAG WAVING_BLACK=FLAG
BADMINTON_RACQUET_AND=SHUTTLECOCK BOW_AND=ARROW
EMOJI_MODIFIER_FITZPATRICK=TYPE-1-2,TYPE-3,TYPE-4,TYPE-5,TYPE-6 SPIRAL=SHELL LADY=BEETLE
HATCHING=CHICK FRONT-FACING_BABY=CHICK DROMEDARY=CAMEL BACTRIAN=CAMEL MOUSE=FACE COW=FACE
TIGER=FACE RABBIT=FACE CAT=FACE DRAGON=FACE SPOUTING=WHALE MONKEY=FACE DOG=FACE PIG=FACE,NOSE
FROG=FACE HAMSTER=FACE WOLF=FACE BEAR=FACE PANDA=FACE PAW=PRINTS WHITE_UP_POINTING_BACKHAND=INDEX
WHITE_DOWN_POINTING_BACKHAND=INDEX WHITE_LEFT_POINTING_BACKHAND=INDEX
WHITE_RIGHT_POINTING_BACKHAND=INDEX FISTED_HAND=SIGN WAVING_HAND=SIGN OK_HAND=SIGN THUMBS_UP=SIGN
THUMBS_DOWN=SIGN CLAPPING_HANDS=SIGN OPEN_HANDS=SIGN WOMANS=HAT,CLOTHES,SANDAL,BOOTS MANS=SHOE
ATHLETIC=SHOE HIGH-HEELED=SHOE BUST_IN=SILHOUETTE BUSTS_IN=SILHOUETTE MAN_AND_WOMAN_HOLDING=HANDS
TWO_MEN_HOLDING=HANDS TWO_WOMEN_HOLDING=HANDS POLICE=OFFICER,CAR WOMAN_WITH_BUNNY=EARS
BRIDE_WITH=VEIL PERSON_WITH_BLOND=HAIR MAN_WITH_GUA_PI=MAO MAN_WITH=TURBAN OLDER=MAN,WOMAN
CONSTRUCTION=WORKER,SIGN EXTRATERRESTRIAL=ALIEN ALIEN=MONSTER INFORMATION_DESK=PERSON NAIL=POLISH
FACE=MASSAGE BARBER=POLE KISS=MARK GEM=STONE COUPLE_WITH=HEART BEATING=HEART TWO=HEARTS
SPARKLING=HEART GROWING=HEART HEART_WITH=ARROW,RIBBON BLUE=HEART,BOOK YELLOW=HEART PURPLE=HEART
REVOLVING=HEARTS HEART=DECORATION DIAMOND_SHAPE_WITH_A_DOT=INSIDE ELECTRIC_LIGHT=BULB ANGER=SYMBOL
SLEEPING=SYMBOL,FACE,ACCOMMODATION COLLISION=SYMBOL SPLASHING_SWEAT=SYMBOL DASH=SYMBOL PILE_OF=POO
FLEXED=BICEPS DIZZY=SYMBOL,FACE SPEECH=BALLOON THOUGHT=BALLOON HUNDRED_POINTS=SYMBOL MONEY=BAG
HEAVY_DOLLAR=SIGN CREDIT=CARD BANKNOTE_WITH_YEN=SIGN BANKNOTE_WITH_DOLLAR=SIGN
BANKNOTE_WITH_EURO=SIGN BANKNOTE_WITH_POUND=SIGN MONEY_WITH=WINGS
CHART_WITH_UPWARDS_TREND_AND_YEN=SIGN PERSONAL=COMPUTER FLOPPY=DISK OPTICAL=DISC OPEN_FILE=FOLDER
PAGE_WITH=CURL PAGE_FACING=UP TEAR-OFF=CALENDAR CARD=INDEX CHART_WITH_UPWARDS=TREND
CHART_WITH_DOWNWARDS=TREND BAR=CHART ROUND=PUSHPIN STRAIGHT=RULER BOOKMARK=TABS
NOTEBOOK_WITH_DECORATIVE=COVER OPEN=BOOK,LOCK,FOLDER ORANGE=BOOK NAME=BADGE FAX=MACHINE,ICON
SATELLITE=ANTENNA PUBLIC_ADDRESS=LOUDSPEAKER CHEERING=MEGAPHONE OUTBOX=TRAY INBOX=TRAY
E-MAIL=SYMBOL INCOMING=ENVELOPE ENVELOPE_WITH_DOWNWARDS_ARROW=ABOVE
CLOSED_MAILBOX_WITH_LOWERED=FLAG CLOSED_MAILBOX_WITH_RAISED=FLAG OPEN_MAILBOX_WITH_RAISED=FLAG
OPEN_MAILBOX_WITH_LOWERED=FLAG POSTAL=HORN MOBILE=PHONE MOBILE_PHONE_WITH_RIGHTWARDS_ARROW_AT=LEFT
VIBRATION=MODE MOBILE_PHONE=OFF NO_MOBILE=PHONES ANTENNA_WITH=BARS CAMERA_WITH=FLASH
PORTABLE=STEREO PRAYER=BEADS TWISTED_RIGHTWARDS=ARROWS
CLOCKWISE_RIGHTWARDS_AND_LEFTWARDS_OPEN_CIRCLE=ARROWS
CLOCKWISE_RIGHTWARDS_AND_LEFTWARDS_OPEN_CIRCLE_ARROWS_WITH_CIRCLED_ONE=OVERLAY
CLOCKWISE_DOWNWARDS_AND_UPWARDS_OPEN_CIRCLE=ARROWS
ANTICLOCKWISE_DOWNWARDS_AND_UPWARDS_OPEN_CIRCLE=ARROWS LOW_BRIGHTNESS=SYMBOL HIGH_BRIGHTNESS=SYMBOL
SPEAKER_WITH_CANCELLATION=STROKE SPEAKER_WITH_ONE_SOUND=WAVE SPEAKER_WITH_THREE_SOUND=WAVES
ELECTRIC=PLUG,TORCH LEFT-POINTING_MAGNIFYING=GLASS RIGHT-POINTING_MAGNIFYING=GLASS
LOCK_WITH_INK=PEN CLOSED_LOCK_WITH=KEY BELL_WITH_CANCELLATION=STROKE LINK=SYMBOL RADIO=BUTTON
BACK_WITH_LEFTWARDS_ARROW=ABOVE END_WITH_LEFTWARDS_ARROW=ABOVE
ON_WITH_EXCLAMATION_MARK_WITH_LEFT_RIGHT_ARROW=ABOVE SOON_WITH_RIGHTWARDS_ARROW=ABOVE
TOP_WITH_UPWARDS_ARROW=ABOVE NO_ONE_UNDER_EIGHTEEN=SYMBOL KEYCAP=TEN
INPUT_SYMBOL_FOR_LATIN_CAPITAL=LETTERS INPUT_SYMBOL_FOR_LATIN_SMALL=LETTERS
INPUT_SYMBOL_FOR=NUMBERS,SYMBOLS INPUT_SYMBOL_FOR_LATIN=LETTERS NUT_AND=BOLT CRYSTAL=BALL
SIX_POINTED_STAR_WITH_MIDDLE=DOT JAPANESE_SYMBOL_FOR=BEGINNER TRIDENT=EMBLEM BLACK_SQUARE=BUTTON
WHITE_SQUARE=BUTTON LARGE_RED=CIRCLE LARGE_BLUE=CIRCLE,DIAMOND LARGE_ORANGE=DIAMOND
SMALL_ORANGE=DIAMOND SMALL_BLUE=DIAMOND UP-POINTING_RED=TRIANGLE DOWN-POINTING_RED=TRIANGLE
UP-POINTING_SMALL_RED=TRIANGLE DOWN-POINTING_SMALL_RED=TRIANGLE CIRCLED_CROSS=POMMEE
CROSS_POMMEE_WITH_HALF-CIRCLE=BELOW NOTCHED_LEFT_SEMICIRCLE_WITH_THREE=DOTS
NOTCHED_RIGHT_SEMICIRCLE_WITH_THREE=DOTS SYMBOL_FOR_MARKS=CHAPTER WHITE_LATIN=CROSS
HEAVY_LATIN=CROSS CELTIC=CROSS OM=SYMBOL DOVE_OF=PEACE MENORAH_WITH_NINE=BRANCHES BOWL_OF=HYGIEIA
CLOCK_FACE_ONE=OCLOCK CLOCK_FACE_TWO=OCLOCK CLOCK_FACE_THREE=OCLOCK CLOCK_FACE_FOUR=OCLOCK
CLOCK_FACE_FIVE=OCLOCK CLOCK_FACE_SIX=OCLOCK CLOCK_FACE_SEVEN=OCLOCK CLOCK_FACE_EIGHT=OCLOCK
CLOCK_FACE_NINE=OCLOCK CLOCK_FACE_TEN=OCLOCK CLOCK_FACE_ELEVEN=OCLOCK CLOCK_FACE_TWELVE=OCLOCK
CLOCK_FACE=ONE-THIRTY,TWO-THIRTY,THREE-THIRTY,FOUR-THIRTY,FIVE-THIRTY,SIX-THIRTY,SEVEN-THIRTY
CLOCK_FACE=EIGHT-THIRTY,NINE-THIRTY,TEN-THIRTY,ELEVEN-THIRTY,TWELVE-THIRTY
RIGHT_SPEAKER_WITH_ONE_SOUND=WAVE RIGHT_SPEAKER_WITH_THREE_SOUND=WAVES BULLHORN_WITH_SOUND=WAVES
RINGING=BELL MANTELPIECE=CLOCK BLACK_SKULL_AND=CROSSBONES MAN_IN_BUSINESS_SUIT=LEVITATING
SLEUTH_OR=SPY DARK=SUNGLASSES SPIDER=WEB MAN=DANCING LEFT_HAND_TELEPHONE=RECEIVER
TELEPHONE_RECEIVER_WITH=PAGE RIGHT_HAND_TELEPHONE=RECEIVER WHITE_TOUCHTONE=TELEPHONE
BLACK_TOUCHTONE=TELEPHONE TELEPHONE_ON_TOP_OF=MODEM CLAMSHELL_MOBILE=PHONE BACK_OF=ENVELOPE
STAMPED=ENVELOPE ENVELOPE_WITH=LIGHTNING FLYING=ENVELOPE,SAUCER PEN_OVER_STAMPED=ENVELOPE
LINKED=PAPERCLIPS LOWER_LEFT_BALLPOINT=PEN LOWER_LEFT_FOUNTAIN=PEN LEFT_WRITING=HAND
TURNED_OK_HAND=SIGN RAISED_HAND_WITH_FINGERS=SPLAYED REVERSED_RAISED_HAND_WITH_FINGERS=SPLAYED
REVERSED_THUMBS_UP=SIGN REVERSED_THUMBS_DOWN=SIGN REVERSED_VICTORY=HAND
REVERSED_HAND_WITH_MIDDLE_FINGER=EXTENDED RAISED_HAND_WITH_PART_BETWEEN_MIDDLE_AND_RING=FINGERS
WHITE_DOWN_POINTING_LEFT_HAND=INDEX SIDEWAYS_WHITE_LEFT_POINTING=INDEX
SIDEWAYS_WHITE_RIGHT_POINTING=INDEX SIDEWAYS_BLACK_LEFT_POINTING=INDEX
SIDEWAYS_BLACK_RIGHT_POINTING=INDEX BLACK_LEFT_POINTING_BACKHAND=INDEX
BLACK_RIGHT_POINTING_BACKHAND=INDEX SIDEWAYS_WHITE_UP_POINTING=INDEX
SIDEWAYS_WHITE_DOWN_POINTING=INDEX SIDEWAYS_BLACK_UP_POINTING=INDEX
SIDEWAYS_BLACK_DOWN_POINTING=INDEX BLACK_UP_POINTING_BACKHAND=INDEX
BLACK_DOWN_POINTING_BACKHAND=INDEX DESKTOP=COMPUTER,WINDOW KEYBOARD_AND=MOUSE
THREE_NETWORKED=COMPUTERS POCKET=CALCULATOR BLACK_HARD_SHELL_FLOPPY=DISK
WHITE_HARD_SHELL_FLOPPY=DISK SOFT_SHELL_FLOPPY=DISK WIRED=KEYBOARD ONE_BUTTON=MOUSE
TWO_BUTTON=MOUSE THREE_BUTTON=MOUSE OLD_PERSONAL=COMPUTER HARD=DISK PRINTER=ICON OPTICAL_DISC=ICON
DOCUMENT_WITH=TEXT,PICTURE DOCUMENT_WITH_TEXT_AND=PICTURE FRAME_WITH=PICTURE,TILES FRAME_WITH_AN=X
CARD_INDEX=DIVIDERS CARD_FILE=BOX EMPTY_NOTE=PAGE,PAD NOTE=PAGE,PAD SPIRAL_NOTE=PAD
SPIRAL_CALENDAR=PAD CLOCKWISE_RIGHT_AND_LEFT_SEMICIRCLE=ARROWS CANCELLATION=X
INCREASE_FONT_SIZE=SYMBOL DECREASE_FONT_SIZE=SYMBOL OLD=KEY ROLLED-UP=NEWSPAPER
PAGE_WITH_CIRCLED=TEXT STOCK=CHART DAGGER=KNIFE SPEAKING_HEAD_IN=SILHOUETTE
THREE_RAYS=ABOVE,BELOW,LEFT,RIGHT LEFT_SPEECH=BUBBLE RIGHT_SPEECH=BUBBLE TWO_SPEECH=BUBBLES
THREE_SPEECH=BUBBLES LEFT_THOUGHT=BUBBLE RIGHT_THOUGHT=BUBBLE LEFT_ANGER=BUBBLE RIGHT_ANGER=BUBBLE
MOOD=BUBBLE LIGHTNING_MOOD=BUBBLE LIGHTNING=MOOD BALLOT_SCRIPT=X BALLOT_BOX_WITH_SCRIPT=X
BALLOT_BOLD_SCRIPT=X BALLOT_BOX_WITH_BOLD_SCRIPT=X LIGHT_CHECK=MARK BALLOT_BOX_WITH_BOLD=CHECK
WORLD=MAP MOUNT=FUJI TOKYO=TOWER STATUE_OF=LIBERTY SILHOUETTE_OF=JAPAN GRINNING=FACE
GRINNING_FACE_WITH_SMILING=EYES FACE_WITH_TEARS_OF=JOY SMILING_FACE_WITH_OPEN=MOUTH
SMILING_FACE_WITH_OPEN_MOUTH_AND_SMILING=EYES SMILING_FACE_WITH_OPEN_MOUTH_AND_COLD=SWEAT
SMILING_FACE_WITH_OPEN_MOUTH_AND_TIGHTLY-CLOSED=EYES SMILING_FACE_WITH=HALO,HORNS,SUNGLASSES
WINKING=FACE SMILING_FACE_WITH_SMILING=EYES FACE_SAVOURING_DELICIOUS=FOOD RELIEVED=FACE
SMILING_FACE_WITH_HEART-SHAPED=EYES SMIRKING=FACE NEUTRAL=FACE EXPRESSIONLESS=FACE UNAMUSED=FACE
FACE_WITH_COLD=SWEAT PENSIVE=FACE CONFUSED=FACE CONFOUNDED=FACE KISSING=FACE FACE_THROWING_A=KISS
KISSING_FACE_WITH_SMILING=EYES KISSING_FACE_WITH_CLOSED=EYES FACE_WITH_STUCK-OUT=TONGUE
FACE_WITH_STUCK-OUT_TONGUE_AND_WINKING=EYE FACE_WITH_STUCK-OUT_TONGUE_AND_TIGHTLY-CLOSED=EYES
DISAPPOINTED=FACE WORRIED=FACE ANGRY=FACE POUTING=FACE CRYING=FACE PERSEVERING=FACE
FACE_WITH_LOOK_OF=TRIUMPH DISAPPOINTED_BUT_RELIEVED=FACE FROWNING_FACE_WITH_OPEN=MOUTH
ANGUISHED=FACE FEARFUL=FACE WEARY=FACE SLEEPY=FACE TIRED=FACE GRIMACING=FACE LOUDLY_CRYING=FACE
FACE_WITH_OPEN=MOUTH HUSHED=FACE FACE_WITH_OPEN_MOUTH_AND_COLD=SWEAT FACE_SCREAMING_IN=FEAR
ASTONISHED=FACE FLUSHED=FACE FACE_WITHOUT=MOUTH FACE_WITH_MEDICAL=MASK
GRINNING_CAT_FACE_WITH_SMILING=EYES CAT_FACE_WITH_TEARS_OF=JOY SMILING_CAT_FACE_WITH_OPEN=MOUTH
SMILING_CAT_FACE_WITH_HEART-SHAPED=EYES CAT_FACE_WITH_WRY=SMILE KISSING_CAT_FACE_WITH_CLOSED=EYES
POUTING_CAT=FACE CRYING_CAT=FACE WEARY_CAT=FACE SLIGHTLY_FROWNING=FACE SLIGHTLY_SMILING=FACE
UPSIDE-DOWN=FACE FACE_WITH_ROLLING=EYES FACE_WITH_NO_GOOD=GESTURE FACE_WITH_OK=GESTURE
PERSON_BOWING=DEEPLY SEE-NO-EVIL=MONKEY HEAR-NO-EVIL=MONKEY SPEAK-NO-EVIL=MONKEY
HAPPY_PERSON_RAISING_ONE=HAND PERSON_RAISING_BOTH_HANDS_IN=CELEBRATION PERSON=FROWNING
PERSON_WITH_POUTING=FACE PERSON_WITH_FOLDED=HANDS STEAM=LOCOMOTIVE RAILWAY=CAR,TRACK
HIGH-SPEED=TRAIN HIGH-SPEED_TRAIN_WITH_BULLET=NOSE LIGHT=RAIL TRAM=CAR ONCOMING=BUS,TAXI,AUTOMOBILE
BUS=STOP FIRE=ENGINE ONCOMING_POLICE=CAR RECREATIONAL=VEHICLE DELIVERY=TRUCK ARTICULATED=LORRY
MOUNTAIN=RAILWAY,CABLEWAY,BICYCLIST SUSPENSION=RAILWAY AERIAL=TRAMWAY HORIZONTAL_TRAFFIC=LIGHT
VERTICAL_TRAFFIC=LIGHT POLICE_CARS_REVOLVING=LIGHT TRIANGULAR_FLAG_ON=POST NO_ENTRY=SIGN
SMOKING=SYMBOL NO_SMOKING=SYMBOL PUT_LITTER_IN_ITS_PLACE=SYMBOL DO_NOT_LITTER=SYMBOL
POTABLE_WATER=SYMBOL NON-POTABLE_WATER=SYMBOL CHILDREN=CROSSING MENS=SYMBOL WOMENS=SYMBOL
PASSPORT=CONTROL BAGGAGE=CLAIM TRIANGLE_WITH_ROUNDED=CORNERS PROHIBITED=SIGN
CIRCLED_INFORMATION=SOURCE BOYS=SYMBOL GIRLS=SYMBOL COUCH_AND=LAMP SHOPPING=BAGS,TROLLEY
BELLHOP=BELL PLACE_OF=WORSHIP OCTAGONAL=SIGN HINDU=TEMPLE PLAYGROUND=SLIDE OIL=DRUM
MOTOR=BOAT,SCOOTER UP-POINTING_MILITARY=AIRPLANE UP-POINTING=AIRPLANE UP-POINTING_SMALL=AIRPLANE
SMALL=AIRPLANE NORTHEAST-POINTING=AIRPLANE AIRPLANE=DEPARTURE,ARRIVING ONCOMING_FIRE=ENGINE
DIESEL=LOCOMOTIVE PASSENGER=SHIP AUTO=RICKSHAW PICKUP=TRUCK VARIATION=SELECTOR-15,SELECTOR-16
ZERO_WIDTH_NO-BREAK=SPACE OBJECT_REPLACEMENT=CHARACTER REPLACEMENT=CHARACTER
"

/-- The names of an entry, with low lines between the words. -/
def namesOfEntry (entry : List Char) : List (List Char) :=
  match cut? ['='] entry with
  | some ([], lasts) => pieces ',' lasts
  | some (front, lasts) => (pieces ',' lasts).map fun last => front ++ '_' :: last
  | none => []

/-- A character goes by this name, in letters of either case. -/
def isCharacterName (s : List Char) : Bool :=
  let name := s.map fun c => if c = ' ' then '_' else c.toUpper
  !s.contains '_' && (words characterNames.toList).any fun entry => (namesOfEntry entry).contains name

end Text
end SvgIcon
