/-!
# CallPolicy.Text.CharNames.Pictographs

Names of characters from 1F000 to 10FFFF: game pieces, pictographs and tags. `CharNames.Row` says
how rows are written.
-/

namespace CallPolicy
namespace Text
namespace CharNames

def pictographs : String :=
  "1F000;MAHJONG TILE ;EAST WIND;SOUTH WIND;WEST WIND;NORTH WIND;RED DRAGON;GREEN DRAGON;
    WHITE DRAGON;ONE OF CHARACTERS;TWO OF CHARACTERS;THREE OF CHARACTERS;FOUR OF CHARACTERS;
    FIVE OF CHARACTERS;SIX OF CHARACTERS;SEVEN OF CHARACTERS;EIGHT OF CHARACTERS;NINE OF CHARACTERS;
    ONE OF BAMBOOS;TWO OF BAMBOOS;THREE OF BAMBOOS;FOUR OF BAMBOOS;FIVE OF BAMBOOS;SIX OF BAMBOOS;
    SEVEN OF BAMBOOS;EIGHT OF BAMBOOS;NINE OF BAMBOOS;ONE OF CIRCLES;TWO OF CIRCLES;
    THREE OF CIRCLES;FOUR OF CIRCLES;FIVE OF CIRCLES;SIX OF CIRCLES;SEVEN OF CIRCLES;
    EIGHT OF CIRCLES;NINE OF CIRCLES;PLUM;ORCHID;BAMBOO;CHRYSANTHEMUM;SPRING;SUMMER;AUTUMN;WINTER;
    JOKER;BACK/1F030;DOMINO TILE HORIZONTAL ;BACK/1F031;DOMINO TILE HORIZONTAL-;00-00;00-01;00-02;
    00-03;00-04;00-05;00-06;01-00;01-01;01-02;01-03;01-04;01-05;01-06;02-00;02-01;02-02;02-03;02-04;
    02-05;02-06;03-00;03-01;03-02;03-03;03-04;03-05;03-06;04-00;04-01;04-02;04-03;04-04;04-05;04-06;
    05-00;05-01;05-02;05-03;05-04;05-05;05-06;06-00;06-01;06-02;06-03;06-04;06-05;06-06/
    1F062;DOMINO TILE VERTICAL ;BACK/1F063;DOMINO TILE VERTICAL-;00-00;00-01;00-02;00-03;00-04;
    00-05;00-06;01-00;01-01;01-02;01-03;01-04;01-05;01-06;02-00;02-01;02-02;02-03;02-04;02-05;02-06;
    03-00;03-01;03-02;03-03;03-04;03-05;03-06;04-00;04-01;04-02;04-03;04-04;04-05;04-06;05-00;05-01;
    05-02;05-03;05-04;05-05;05-06;06-00;06-01;06-02;06-03;06-04;06-05;06-06/1F0A0;PLAYING CARD ;
    BACK;ACE OF SPADES;TWO OF SPADES;THREE OF SPADES;FOUR OF SPADES;FIVE OF SPADES;SIX OF SPADES;
    SEVEN OF SPADES;EIGHT OF SPADES;NINE OF SPADES;TEN OF SPADES;JACK OF SPADES;KNIGHT OF SPADES;
    QUEEN OF SPADES;KING OF SPADES/1F0B1;PLAYING CARD ;ACE OF HEARTS;TWO OF HEARTS;THREE OF HEARTS;
    FOUR OF HEARTS;FIVE OF HEARTS;SIX OF HEARTS;SEVEN OF HEARTS;EIGHT OF HEARTS;NINE OF HEARTS;
    TEN OF HEARTS;JACK OF HEARTS;KNIGHT OF HEARTS;QUEEN OF HEARTS;KING OF HEARTS;RED JOKER/
    1F0C1;PLAYING CARD ;ACE OF DIAMONDS;TWO OF DIAMONDS;THREE OF DIAMONDS;FOUR OF DIAMONDS;
    FIVE OF DIAMONDS;SIX OF DIAMONDS;SEVEN OF DIAMONDS;EIGHT OF DIAMONDS;NINE OF DIAMONDS;
    TEN OF DIAMONDS;JACK OF DIAMONDS;KNIGHT OF DIAMONDS;QUEEN OF DIAMONDS;KING OF DIAMONDS;
    BLACK JOKER/1F0D1;PLAYING CARD ;ACE OF CLUBS;TWO OF CLUBS;THREE OF CLUBS;FOUR OF CLUBS;
    FIVE OF CLUBS;SIX OF CLUBS;SEVEN OF CLUBS;EIGHT OF CLUBS;NINE OF CLUBS;TEN OF CLUBS;
    JACK OF CLUBS;KNIGHT OF CLUBS;QUEEN OF CLUBS;KING OF CLUBS;WHITE JOKER;FOOL/
    1F0E1;PLAYING CARD TRUMP-;1;2;3;4;5;6;7;8;9;10;11;12;13;14;15;16;17;18;19;20;21/1F100;DIGIT ;
    ZERO FULL STOP;ZERO COMMA;ONE COMMA;TWO COMMA;THREE COMMA;FOUR COMMA;FIVE COMMA;SIX COMMA;
    SEVEN COMMA;EIGHT COMMA;NINE COMMA/1F10B;DINGBAT ;CIRCLED SANS-SERIF DIGIT ZERO;
    NEGATIVE CIRCLED SANS-SERIF DIGIT ZERO/1F10D;CIRCLED ;ZERO WITH SLASH;ANTICLOCKWISE ARROW;
    DOLLAR SIGN WITH OVERLAID BACKSLASH/1F110;PARENTHESIZED LATIN CAPITAL LETTER ;A;B;C;D;E;F;G;H;I;
    J;K;L;M;N;O;P;Q;R;S;T;U;V;W;X;Y;Z/1F12A;TORTOISE SHELL BRACKETED LATIN CAPITAL LETTER ;S/
    1F12B;CIRCLED ITALIC LATIN CAPITAL LETTER ;C;R/1F12D;;CIRCLED CD;CIRCLED WZ;COPYLEFT SYMBOL/
    1F130;SQUARED LATIN CAPITAL LETTER ;A;B;C;D;E;F;G;H;I;J;K;L;M;N;O;P;Q;R;S;T;U;V;W;X;Y;Z/
    1F14A;SQUARED ;HV;MV;SD;SS;PPV;WC/1F150;NEGATIVE CIRCLED LATIN CAPITAL LETTER ;A;B;C;D;E;F;G;H;
    I;J;K;L;M;N;O;P;Q;R;S;T;U;V;W;X;Y;Z/1F16A;RAISED ;MC SIGN;MD SIGN;MR SIGN/1F16D;CIRCLED ;CC;
    C WITH OVERLAID BACKSLASH;HUMAN FIGURE/1F170;NEGATIVE SQUARED LATIN CAPITAL LETTER ;A;B;C;D;E;F;
    G;H;I;J;K;L;M;N;O;P;Q;R;S;T;U;V;W;X;Y;Z/1F18A;CROSSED NEGATIVE SQUARED LATIN CAPITAL LETTER ;P/
    1F18B;NEGATIVE SQUARED ;IC;PA;SA;AB;WC/1F190;SQUARE ;DJ/1F191;SQUARED ;CL;COOL;FREE;ID;NEW;NG;
    OK;SOS;UP WITH EXCLAMATION MARK;VS;THREE D;SECOND SCREEN;TWO K;FOUR K;EIGHT K;FIVE POINT ONE;
    SEVEN POINT ONE;TWENTY-TWO POINT TWO;SIXTY P;ONE HUNDRED TWENTY P;LATIN SMALL LETTER D;HC;HDR;
    HI-RES;LOSSLESS;SHV;UHD;VOD/1F1AD;MASK WORK ;SYMBOL/1F1E6;REGIONAL INDICATOR SYMBOL LETTER ;A;B;
    C;D;E;F;G;H;I;J;K;L;M;N;O;P;Q;R;S;T;U;V;W;X;Y;Z/1F200;SQUARE HIRAGANA ;HOKA/
    1F201;SQUARED KATAKANA ;KOKO;SA/1F210;SQUARED CJK UNIFIED IDEOGRAPH-;624B;5B57;53CC/
    1F213;SQUARED KATAKANA ;DE/1F214;SQUARED CJK UNIFIED IDEOGRAPH-;4E8C;591A;89E3;5929;4EA4;6620;
    7121;6599;524D;5F8C;518D;65B0;521D;7D42;751F;8CA9;58F0;5439;6F14;6295;6355;4E00;4E09;904A;5DE6;
    4E2D;53F3;6307;8D70;6253;7981;7A7A;5408;6E80;6709;6708;7533;5272;55B6;914D/
    1F240;TORTOISE SHELL BRACKETED CJK UNIFIED IDEOGRAPH-;672C;4E09;4E8C;5B89;70B9;6253;76D7;52DD;
    6557/1F250;CIRCLED IDEOGRAPH ;ADVANTAGE;ACCEPT/1F260;ROUNDED SYMBOL FOR ;FU;LU;SHOU;XI;SHUANGXI;
    CAI/1F300;;CYCLONE;FOGGY;CLOSED UMBRELLA;NIGHT WITH STARS;SUNRISE OVER MOUNTAINS;SUNRISE;
    CITYSCAPE AT DUSK;SUNSET OVER BUILDINGS;RAINBOW;BRIDGE AT NIGHT;WATER WAVE;VOLCANO;MILKY WAY/
    1F30D;EARTH GLOBE ;EUROPE-AFRICA;AMERICAS;ASIA-AUSTRALIA/1F310;;GLOBE WITH MERIDIANS;
    NEW MOON SYMBOL;WAXING CRESCENT MOON SYMBOL;FIRST QUARTER MOON SYMBOL;
    WAXING GIBBOUS MOON SYMBOL;FULL MOON SYMBOL;WANING GIBBOUS MOON SYMBOL;LAST QUARTER MOON SYMBOL;
    WANING CRESCENT MOON SYMBOL;CRESCENT MOON;NEW MOON WITH FACE;FIRST QUARTER MOON WITH FACE;
    LAST QUARTER MOON WITH FACE;FULL MOON WITH FACE;SUN WITH FACE;GLOWING STAR;SHOOTING STAR;
    THERMOMETER;BLACK DROPLET;WHITE SUN/1F324;WHITE SUN ;WITH SMALL CLOUD;BEHIND CLOUD;
    BEHIND CLOUD WITH RAIN/1F327;CLOUD WITH ;RAIN;SNOW;LIGHTNING;TORNADO/1F32B;;FOG;
    WIND BLOWING FACE;HOT DOG;TACO;BURRITO;CHESTNUT;SEEDLING;EVERGREEN TREE;DECIDUOUS TREE;
    PALM TREE;CACTUS;HOT PEPPER;TULIP;CHERRY BLOSSOM;ROSE;HIBISCUS;SUNFLOWER;BLOSSOM;EAR OF MAIZE;
    EAR OF RICE;HERB;FOUR LEAF CLOVER;MAPLE LEAF;FALLEN LEAF;LEAF FLUTTERING IN WIND;MUSHROOM;
    TOMATO;AUBERGINE;GRAPES;MELON;WATERMELON;TANGERINE;LEMON;BANANA;PINEAPPLE;RED APPLE;GREEN APPLE;
    PEAR;PEACH;CHERRIES;STRAWBERRY;HAMBURGER;SLICE OF PIZZA;MEAT ON BONE;POULTRY LEG;RICE CRACKER;
    RICE BALL;COOKED RICE;CURRY AND RICE;STEAMING BOWL;SPAGHETTI;BREAD;FRENCH FRIES;
    ROASTED SWEET POTATO;DANGO;ODEN;SUSHI;FRIED SHRIMP;FISH CAKE WITH SWIRL DESIGN;SOFT ICE CREAM;
    SHAVED ICE;ICE CREAM;DOUGHNUT;COOKIE;CHOCOLATE BAR;CANDY;LOLLIPOP;CUSTARD;HONEY POT;SHORTCAKE;
    BENTO BOX;POT OF FOOD;COOKING;FORK AND KNIFE;TEACUP WITHOUT HANDLE;SAKE BOTTLE AND CUP;
    WINE GLASS;COCKTAIL GLASS;TROPICAL DRINK;BEER MUG;CLINKING BEER MUGS;BABY BOTTLE;
    FORK AND KNIFE WITH PLATE;BOTTLE WITH POPPING CORK;POPCORN;RIBBON;WRAPPED PRESENT;BIRTHDAY CAKE;
    JACK-O-LANTERN;CHRISTMAS TREE;FATHER CHRISTMAS;FIREWORKS;FIREWORK SPARKLER;BALLOON;PARTY POPPER;
    CONFETTI BALL;TANABATA TREE;CROSSED FLAGS;PINE DECORATION;JAPANESE DOLLS;CARP STREAMER;
    WIND CHIME;MOON VIEWING CEREMONY;SCHOOL SATCHEL;GRADUATION CAP;HEART WITH TIP ON THE LEFT;
    BOUQUET OF FLOWERS;MILITARY MEDAL;REMINDER RIBBON;MUSICAL KEYBOARD WITH JACKS;STUDIO MICROPHONE;
    LEVEL SLIDER;CONTROL KNOBS;BEAMED ASCENDING MUSICAL NOTES;BEAMED DESCENDING MUSICAL NOTES;
    FILM FRAMES;ADMISSION TICKETS;CAROUSEL HORSE;FERRIS WHEEL;ROLLER COASTER;FISHING POLE AND FISH;
    MICROPHONE;MOVIE CAMERA;CINEMA;HEADPHONE;ARTIST PALETTE;TOP HAT;CIRCUS TENT;TICKET;
    CLAPPER BOARD;PERFORMING ARTS;VIDEO GAME;DIRECT HIT;SLOT MACHINE;BILLIARDS;GAME DIE;BOWLING;
    FLOWER PLAYING CARDS;MUSICAL NOTE;MULTIPLE MUSICAL NOTES;SAXOPHONE;GUITAR;MUSICAL KEYBOARD;
    TRUMPET;VIOLIN;MUSICAL SCORE;RUNNING SHIRT WITH SASH;TENNIS RACQUET AND BALL;SKI AND SKI BOOT;
    BASKETBALL AND HOOP;CHEQUERED FLAG;SNOWBOARDER;RUNNER;SURFER;SPORTS MEDAL;TROPHY;HORSE RACING;
    AMERICAN FOOTBALL;RUGBY FOOTBALL;SWIMMER;WEIGHT LIFTER;GOLFER;RACING MOTORCYCLE;RACING CAR;
    CRICKET BAT AND BALL;VOLLEYBALL;FIELD HOCKEY STICK AND BALL;ICE HOCKEY STICK AND PUCK;
    TABLE TENNIS PADDLE AND BALL;SNOW CAPPED MOUNTAIN;CAMPING;BEACH WITH UMBRELLA;
    BUILDING CONSTRUCTION;HOUSE BUILDINGS;CITYSCAPE;DERELICT HOUSE BUILDING;CLASSICAL BUILDING;
    DESERT;DESERT ISLAND;NATIONAL PARK;STADIUM;HOUSE BUILDING;HOUSE WITH GARDEN;OFFICE BUILDING;
    JAPANESE POST OFFICE;EUROPEAN POST OFFICE;HOSPITAL;BANK;AUTOMATED TELLER MACHINE;HOTEL;
    LOVE HOTEL;CONVENIENCE STORE;SCHOOL;DEPARTMENT STORE;FACTORY;IZAKAYA LANTERN;JAPANESE CASTLE;
    EUROPEAN CASTLE;WHITE PENNANT;BLACK PENNANT;WAVING WHITE FLAG;WAVING BLACK FLAG;ROSETTE;
    BLACK ROSETTE;LABEL;BADMINTON RACQUET AND SHUTTLECOCK;BOW AND ARROW;AMPHORA/
    1F3FB;EMOJI MODIFIER FITZPATRICK TYPE-;1-2;3;4;5;6/1F400;;RAT;MOUSE;OX;WATER BUFFALO;COW;TIGER;
    LEOPARD;RABBIT;CAT;DRAGON;CROCODILE;WHALE;SNAIL;SNAKE;HORSE;RAM;GOAT;SHEEP;MONKEY;ROOSTER;
    CHICKEN;DOG;PIG;BOAR;ELEPHANT;OCTOPUS;SPIRAL SHELL;BUG;ANT;HONEYBEE;LADY BEETLE;FISH;
    TROPICAL FISH;BLOWFISH;TURTLE;HATCHING CHICK;BABY CHICK;FRONT-FACING BABY CHICK;BIRD;PENGUIN;
    KOALA;POODLE;DROMEDARY CAMEL;BACTRIAN CAMEL;DOLPHIN;MOUSE FACE;COW FACE;TIGER FACE;RABBIT FACE;
    CAT FACE;DRAGON FACE;SPOUTING WHALE;HORSE FACE;MONKEY FACE;DOG FACE;PIG FACE;FROG FACE;
    HAMSTER FACE;WOLF FACE;BEAR FACE;PANDA FACE;PIG NOSE;PAW PRINTS;CHIPMUNK;EYES;EYE;EAR;NOSE;
    MOUTH;TONGUE/1F446;WHITE ;UP POINTING BACKHAND INDEX;DOWN POINTING BACKHAND INDEX;
    LEFT POINTING BACKHAND INDEX;RIGHT POINTING BACKHAND INDEX/1F44A;;FISTED HAND SIGN;
    WAVING HAND SIGN;OK HAND SIGN;THUMBS UP SIGN;THUMBS DOWN SIGN;CLAPPING HANDS SIGN;
    OPEN HANDS SIGN;CROWN;WOMANS HAT;EYEGLASSES;NECKTIE;T-SHIRT;JEANS;DRESS;KIMONO;BIKINI;
    WOMANS CLOTHES;PURSE;HANDBAG;POUCH;MANS SHOE;ATHLETIC SHOE;HIGH-HEELED SHOE;WOMANS SANDAL;
    WOMANS BOOTS;FOOTPRINTS;BUST IN SILHOUETTE;BUSTS IN SILHOUETTE;BOY;GIRL;MAN;WOMAN;FAMILY;
    MAN AND WOMAN HOLDING HANDS;TWO MEN HOLDING HANDS;TWO WOMEN HOLDING HANDS;POLICE OFFICER;
    WOMAN WITH BUNNY EARS;BRIDE WITH VEIL;PERSON WITH BLOND HAIR;MAN WITH GUA PI MAO;
    MAN WITH TURBAN;OLDER MAN;OLDER WOMAN;BABY;CONSTRUCTION WORKER;PRINCESS;JAPANESE OGRE;
    JAPANESE GOBLIN;GHOST;BABY ANGEL;EXTRATERRESTRIAL ALIEN;ALIEN MONSTER;IMP;SKULL;
    INFORMATION DESK PERSON;GUARDSMAN;DANCER;LIPSTICK;NAIL POLISH;FACE MASSAGE;HAIRCUT;BARBER POLE;
    SYRINGE;PILL;KISS MARK;LOVE LETTER;RING;GEM STONE;KISS;BOUQUET;COUPLE WITH HEART;WEDDING;
    BEATING HEART;BROKEN HEART;TWO HEARTS;SPARKLING HEART;GROWING HEART;HEART WITH ARROW;BLUE HEART;
    GREEN HEART;YELLOW HEART;PURPLE HEART;HEART WITH RIBBON;REVOLVING HEARTS;HEART DECORATION;
    DIAMOND SHAPE WITH A DOT INSIDE;ELECTRIC LIGHT BULB;ANGER SYMBOL;BOMB;SLEEPING SYMBOL;
    COLLISION SYMBOL;SPLASHING SWEAT SYMBOL;DROPLET;DASH SYMBOL;PILE OF POO;FLEXED BICEPS;
    DIZZY SYMBOL;SPEECH BALLOON;THOUGHT BALLOON;WHITE FLOWER;HUNDRED POINTS SYMBOL;MONEY BAG;
    CURRENCY EXCHANGE;HEAVY DOLLAR SIGN;CREDIT CARD/1F4B4;BANKNOTE WITH ;YEN SIGN;DOLLAR SIGN;
    EURO SIGN;POUND SIGN/1F4B8;;MONEY WITH WINGS;CHART WITH UPWARDS TREND AND YEN SIGN;SEAT;
    PERSONAL COMPUTER;BRIEFCASE;MINIDISC;FLOPPY DISK;OPTICAL DISC;DVD;FILE FOLDER;OPEN FILE FOLDER;
    PAGE WITH CURL;PAGE FACING UP;CALENDAR;TEAR-OFF CALENDAR;CARD INDEX;CHART WITH UPWARDS TREND;
    CHART WITH DOWNWARDS TREND;BAR CHART;CLIPBOARD;PUSHPIN;ROUND PUSHPIN;PAPERCLIP;STRAIGHT RULER;
    TRIANGULAR RULER;BOOKMARK TABS;LEDGER;NOTEBOOK;NOTEBOOK WITH DECORATIVE COVER;CLOSED BOOK;
    OPEN BOOK;GREEN BOOK;BLUE BOOK;ORANGE BOOK;BOOKS;NAME BADGE;SCROLL;MEMO;TELEPHONE RECEIVER;
    PAGER;FAX MACHINE;SATELLITE ANTENNA;PUBLIC ADDRESS LOUDSPEAKER;CHEERING MEGAPHONE;OUTBOX TRAY;
    INBOX TRAY;PACKAGE;E-MAIL SYMBOL;INCOMING ENVELOPE;ENVELOPE WITH DOWNWARDS ARROW ABOVE/
    1F4EA;CLOSED MAILBOX WITH ;LOWERED FLAG;RAISED FLAG/1F4EC;OPEN MAILBOX WITH ;RAISED FLAG;
    LOWERED FLAG/1F4EE;;POSTBOX;POSTAL HORN;NEWSPAPER;MOBILE PHONE;
    MOBILE PHONE WITH RIGHTWARDS ARROW AT LEFT;VIBRATION MODE;MOBILE PHONE OFF;NO MOBILE PHONES;
    ANTENNA WITH BARS;CAMERA;CAMERA WITH FLASH;VIDEO CAMERA;TELEVISION;RADIO;VIDEOCASSETTE;
    FILM PROJECTOR;PORTABLE STEREO;PRAYER BEADS;TWISTED RIGHTWARDS ARROWS/
    1F501;CLOCKWISE RIGHTWARDS AND LEFTWARDS OPEN CIRCLE ;ARROWS;ARROWS WITH CIRCLED ONE OVERLAY/
    1F503;;CLOCKWISE DOWNWARDS AND UPWARDS OPEN CIRCLE ARROWS;
    ANTICLOCKWISE DOWNWARDS AND UPWARDS OPEN CIRCLE ARROWS;LOW BRIGHTNESS SYMBOL;
    HIGH BRIGHTNESS SYMBOL;SPEAKER WITH CANCELLATION STROKE;SPEAKER;SPEAKER WITH ONE SOUND WAVE;
    SPEAKER WITH THREE SOUND WAVES;BATTERY;ELECTRIC PLUG;LEFT-POINTING MAGNIFYING GLASS;
    RIGHT-POINTING MAGNIFYING GLASS;LOCK WITH INK PEN;CLOSED LOCK WITH KEY;KEY;LOCK;OPEN LOCK;BELL;
    BELL WITH CANCELLATION STROKE;BOOKMARK;LINK SYMBOL;RADIO BUTTON;BACK WITH LEFTWARDS ARROW ABOVE;
    END WITH LEFTWARDS ARROW ABOVE;ON WITH EXCLAMATION MARK WITH LEFT RIGHT ARROW ABOVE;
    SOON WITH RIGHTWARDS ARROW ABOVE;TOP WITH UPWARDS ARROW ABOVE;NO ONE UNDER EIGHTEEN SYMBOL;
    KEYCAP TEN/1F520;INPUT SYMBOL FOR ;LATIN CAPITAL LETTERS;LATIN SMALL LETTERS;NUMBERS;SYMBOLS;
    LATIN LETTERS/1F525;;FIRE;ELECTRIC TORCH;WRENCH;HAMMER;NUT AND BOLT;HOCHO;PISTOL;MICROSCOPE;
    TELESCOPE;CRYSTAL BALL;SIX POINTED STAR WITH MIDDLE DOT;JAPANESE SYMBOL FOR BEGINNER;
    TRIDENT EMBLEM;BLACK SQUARE BUTTON;WHITE SQUARE BUTTON/1F534;LARGE ;RED CIRCLE;BLUE CIRCLE;
    ORANGE DIAMOND;BLUE DIAMOND/1F538;;SMALL ORANGE DIAMOND;SMALL BLUE DIAMOND;
    UP-POINTING RED TRIANGLE;DOWN-POINTING RED TRIANGLE;UP-POINTING SMALL RED TRIANGLE;
    DOWN-POINTING SMALL RED TRIANGLE;LOWER RIGHT SHADOWED WHITE CIRCLE;
    UPPER RIGHT SHADOWED WHITE CIRCLE;CIRCLED CROSS POMMEE;CROSS POMMEE WITH HALF-CIRCLE BELOW;
    CROSS POMMEE;NOTCHED LEFT SEMICIRCLE WITH THREE DOTS;NOTCHED RIGHT SEMICIRCLE WITH THREE DOTS;
    SYMBOL FOR MARKS CHAPTER;WHITE LATIN CROSS;HEAVY LATIN CROSS;CELTIC CROSS;OM SYMBOL;
    DOVE OF PEACE;KAABA;MOSQUE;SYNAGOGUE;MENORAH WITH NINE BRANCHES;BOWL OF HYGIEIA/
    1F550;CLOCK FACE ;ONE OCLOCK;TWO OCLOCK;THREE OCLOCK;FOUR OCLOCK;FIVE OCLOCK;SIX OCLOCK;
    SEVEN OCLOCK;EIGHT OCLOCK;NINE OCLOCK;TEN OCLOCK;ELEVEN OCLOCK;TWELVE OCLOCK;ONE-THIRTY;
    TWO-THIRTY;THREE-THIRTY;FOUR-THIRTY;FIVE-THIRTY;SIX-THIRTY;SEVEN-THIRTY;EIGHT-THIRTY;
    NINE-THIRTY;TEN-THIRTY;ELEVEN-THIRTY;TWELVE-THIRTY/1F568;RIGHT ;SPEAKER;
    SPEAKER WITH ONE SOUND WAVE;SPEAKER WITH THREE SOUND WAVES/1F56B;;BULLHORN;
    BULLHORN WITH SOUND WAVES;RINGING BELL;BOOK;CANDLE;MANTELPIECE CLOCK;BLACK SKULL AND CROSSBONES;
    NO PIRACY;HOLE;MAN IN BUSINESS SUIT LEVITATING;SLEUTH OR SPY;DARK SUNGLASSES;SPIDER;SPIDER WEB;
    JOYSTICK;MAN DANCING;LEFT HAND TELEPHONE RECEIVER;TELEPHONE RECEIVER WITH PAGE;
    RIGHT HAND TELEPHONE RECEIVER;WHITE TOUCHTONE TELEPHONE;BLACK TOUCHTONE TELEPHONE;
    TELEPHONE ON TOP OF MODEM;CLAMSHELL MOBILE PHONE;BACK OF ENVELOPE;STAMPED ENVELOPE;
    ENVELOPE WITH LIGHTNING;FLYING ENVELOPE;PEN OVER STAMPED ENVELOPE;LINKED PAPERCLIPS;
    BLACK PUSHPIN/1F589;LOWER LEFT ;PENCIL;BALLPOINT PEN;FOUNTAIN PEN;PAINTBRUSH;CRAYON/1F58E;;
    LEFT WRITING HAND;TURNED OK HAND SIGN;RAISED HAND WITH FINGERS SPLAYED/1F591;REVERSED ;
    RAISED HAND WITH FINGERS SPLAYED;THUMBS UP SIGN;THUMBS DOWN SIGN;VICTORY HAND;
    HAND WITH MIDDLE FINGER EXTENDED/1F596;;RAISED HAND WITH PART BETWEEN MIDDLE AND RING FINGERS;
    WHITE DOWN POINTING LEFT HAND INDEX/1F598;SIDEWAYS ;WHITE LEFT POINTING INDEX;
    WHITE RIGHT POINTING INDEX;BLACK LEFT POINTING INDEX;BLACK RIGHT POINTING INDEX/1F59C;BLACK ;
    LEFT POINTING BACKHAND INDEX;RIGHT POINTING BACKHAND INDEX/1F59E;SIDEWAYS ;
    WHITE UP POINTING INDEX;WHITE DOWN POINTING INDEX;BLACK UP POINTING INDEX;
    BLACK DOWN POINTING INDEX/1F5A2;BLACK ;UP POINTING BACKHAND INDEX;DOWN POINTING BACKHAND INDEX;
    HEART/1F5A5;;DESKTOP COMPUTER;KEYBOARD AND MOUSE;THREE NETWORKED COMPUTERS;PRINTER;
    POCKET CALCULATOR;BLACK HARD SHELL FLOPPY DISK;WHITE HARD SHELL FLOPPY DISK;
    SOFT SHELL FLOPPY DISK;TAPE CARTRIDGE;WIRED KEYBOARD;ONE BUTTON MOUSE;TWO BUTTON MOUSE;
    THREE BUTTON MOUSE;TRACKBALL;OLD PERSONAL COMPUTER;HARD DISK;SCREEN;PRINTER ICON;FAX ICON;
    OPTICAL DISC ICON/1F5B9;DOCUMENT WITH ;TEXT;TEXT AND PICTURE;PICTURE/1F5BC;FRAME WITH ;PICTURE;
    TILES;AN X/1F5BF;;BLACK FOLDER;FOLDER;OPEN FOLDER;CARD INDEX DIVIDERS;CARD FILE BOX;
    FILE CABINET;EMPTY NOTE;EMPTY NOTE PAGE;EMPTY NOTE PAD;NOTE;NOTE PAGE;NOTE PAD;EMPTY DOCUMENT;
    EMPTY PAGE;EMPTY PAGES;DOCUMENT;PAGE;PAGES;WASTEBASKET;SPIRAL NOTE PAD;SPIRAL CALENDAR PAD;
    DESKTOP WINDOW;MINIMIZE;MAXIMIZE;OVERLAP;CLOCKWISE RIGHT AND LEFT SEMICIRCLE ARROWS;
    CANCELLATION X;INCREASE FONT SIZE SYMBOL;DECREASE FONT SIZE SYMBOL;COMPRESSION;OLD KEY;
    ROLLED-UP NEWSPAPER;PAGE WITH CIRCLED TEXT;STOCK CHART;DAGGER KNIFE;LIPS;
    SPEAKING HEAD IN SILHOUETTE/1F5E4;THREE RAYS ;ABOVE;BELOW;LEFT;RIGHT/1F5E8;;LEFT SPEECH BUBBLE;
    RIGHT SPEECH BUBBLE;TWO SPEECH BUBBLES;THREE SPEECH BUBBLES;LEFT THOUGHT BUBBLE;
    RIGHT THOUGHT BUBBLE;LEFT ANGER BUBBLE;RIGHT ANGER BUBBLE;MOOD BUBBLE/1F5F1;LIGHTNING ;
    MOOD BUBBLE;MOOD/1F5F3;BALLOT ;BOX WITH BALLOT;SCRIPT X;BOX WITH SCRIPT X;BOLD SCRIPT X;
    BOX WITH BOLD SCRIPT X/1F5F8;;LIGHT CHECK MARK;BALLOT BOX WITH BOLD CHECK;WORLD MAP;MOUNT FUJI;
    TOKYO TOWER;STATUE OF LIBERTY;SILHOUETTE OF JAPAN;MOYAI;GRINNING FACE;
    GRINNING FACE WITH SMILING EYES;FACE WITH TEARS OF JOY/1F603;SMILING FACE WITH ;OPEN MOUTH;
    OPEN MOUTH AND SMILING EYES;OPEN MOUTH AND COLD SWEAT;OPEN MOUTH AND TIGHTLY-CLOSED EYES;HALO;
    HORNS/1F609;;WINKING FACE;SMILING FACE WITH SMILING EYES;FACE SAVOURING DELICIOUS FOOD;
    RELIEVED FACE/1F60D;SMILING FACE WITH ;HEART-SHAPED EYES;SUNGLASSES/1F60F;;SMIRKING FACE;
    NEUTRAL FACE;EXPRESSIONLESS FACE;UNAMUSED FACE;FACE WITH COLD SWEAT;PENSIVE FACE;CONFUSED FACE;
    CONFOUNDED FACE;KISSING FACE;FACE THROWING A KISS/1F619;KISSING FACE WITH ;SMILING EYES;
    CLOSED EYES/1F61B;FACE WITH STUCK-OUT ;TONGUE;TONGUE AND WINKING EYE;
    TONGUE AND TIGHTLY-CLOSED EYES/1F61E;;DISAPPOINTED FACE;WORRIED FACE;ANGRY FACE;POUTING FACE;
    CRYING FACE;PERSEVERING FACE;FACE WITH LOOK OF TRIUMPH;DISAPPOINTED BUT RELIEVED FACE;
    FROWNING FACE WITH OPEN MOUTH;ANGUISHED FACE;FEARFUL FACE;WEARY FACE;SLEEPY FACE;TIRED FACE;
    GRIMACING FACE;LOUDLY CRYING FACE;FACE WITH OPEN MOUTH;HUSHED FACE;
    FACE WITH OPEN MOUTH AND COLD SWEAT;FACE SCREAMING IN FEAR;ASTONISHED FACE;FLUSHED FACE;
    SLEEPING FACE;DIZZY FACE;FACE WITHOUT MOUTH;FACE WITH MEDICAL MASK;
    GRINNING CAT FACE WITH SMILING EYES;CAT FACE WITH TEARS OF JOY/1F63A;SMILING CAT FACE WITH ;
    OPEN MOUTH;HEART-SHAPED EYES/1F63C;;CAT FACE WITH WRY SMILE;KISSING CAT FACE WITH CLOSED EYES;
    POUTING CAT FACE;CRYING CAT FACE;WEARY CAT FACE;SLIGHTLY FROWNING FACE;SLIGHTLY SMILING FACE;
    UPSIDE-DOWN FACE/1F644;FACE WITH ;ROLLING EYES;NO GOOD GESTURE;OK GESTURE/1F647;;
    PERSON BOWING DEEPLY;SEE-NO-EVIL MONKEY;HEAR-NO-EVIL MONKEY;SPEAK-NO-EVIL MONKEY;
    HAPPY PERSON RAISING ONE HAND/1F64C;PERSON ;RAISING BOTH HANDS IN CELEBRATION;FROWNING;
    WITH POUTING FACE;WITH FOLDED HANDS/1F650;;NORTH WEST POINTING LEAF;SOUTH WEST POINTING LEAF;
    NORTH EAST POINTING LEAF;SOUTH EAST POINTING LEAF/1F654;TURNED ;NORTH WEST POINTING LEAF;
    SOUTH WEST POINTING LEAF;NORTH EAST POINTING LEAF;SOUTH EAST POINTING LEAF/1F658;;
    NORTH WEST POINTING VINE LEAF;SOUTH WEST POINTING VINE LEAF;NORTH EAST POINTING VINE LEAF;
    SOUTH EAST POINTING VINE LEAF/1F65C;HEAVY ;NORTH WEST POINTING VINE LEAF;
    SOUTH WEST POINTING VINE LEAF;NORTH EAST POINTING VINE LEAF;SOUTH EAST POINTING VINE LEAF/
    1F660;;NORTH WEST POINTING BUD;SOUTH WEST POINTING BUD;NORTH EAST POINTING BUD;
    SOUTH EAST POINTING BUD/1F664;HEAVY ;NORTH WEST POINTING BUD;SOUTH WEST POINTING BUD;
    NORTH EAST POINTING BUD;SOUTH EAST POINTING BUD/1F668;HOLLOW QUILT SQUARE ;ORNAMENT;
    ORNAMENT IN BLACK SQUARE/1F66A;SOLID QUILT SQUARE ;ORNAMENT;ORNAMENT IN BLACK SQUARE/1F66C;;
    LEFTWARDS ROCKET;UPWARDS ROCKET;RIGHTWARDS ROCKET;DOWNWARDS ROCKET;SCRIPT LIGATURE ET ORNAMENT;
    HEAVY SCRIPT LIGATURE ET ORNAMENT;LIGATURE OPEN ET ORNAMENT;HEAVY LIGATURE OPEN ET ORNAMENT;
    HEAVY AMPERSAND ORNAMENT;SWASH AMPERSAND ORNAMENT/1F676;SANS-SERIF HEAVY ;
    DOUBLE TURNED COMMA QUOTATION MARK ORNAMENT;DOUBLE COMMA QUOTATION MARK ORNAMENT;
    LOW DOUBLE COMMA QUOTATION MARK ORNAMENT/1F679;;HEAVY INTERROBANG ORNAMENT;
    SANS-SERIF INTERROBANG ORNAMENT;HEAVY SANS-SERIF INTERROBANG ORNAMENT;VERY HEAVY SOLIDUS;
    VERY HEAVY REVERSE SOLIDUS;CHECKER BOARD;REVERSE CHECKER BOARD;ROCKET;HELICOPTER;
    STEAM LOCOMOTIVE;RAILWAY CAR;HIGH-SPEED TRAIN;HIGH-SPEED TRAIN WITH BULLET NOSE;TRAIN;METRO;
    LIGHT RAIL;STATION;TRAM;TRAM CAR;BUS;ONCOMING BUS;TROLLEYBUS;BUS STOP;MINIBUS;AMBULANCE;
    FIRE ENGINE;POLICE CAR;ONCOMING POLICE CAR;TAXI;ONCOMING TAXI;AUTOMOBILE;ONCOMING AUTOMOBILE;
    RECREATIONAL VEHICLE;DELIVERY TRUCK;ARTICULATED LORRY;TRACTOR;MONORAIL;MOUNTAIN RAILWAY;
    SUSPENSION RAILWAY;MOUNTAIN CABLEWAY;AERIAL TRAMWAY;SHIP;ROWBOAT;SPEEDBOAT;
    HORIZONTAL TRAFFIC LIGHT;VERTICAL TRAFFIC LIGHT;CONSTRUCTION SIGN;POLICE CARS REVOLVING LIGHT;
    TRIANGULAR FLAG ON POST;DOOR;NO ENTRY SIGN;SMOKING SYMBOL;NO SMOKING SYMBOL;
    PUT LITTER IN ITS PLACE SYMBOL;DO NOT LITTER SYMBOL;POTABLE WATER SYMBOL;
    NON-POTABLE WATER SYMBOL;BICYCLE;NO BICYCLES;BICYCLIST;MOUNTAIN BICYCLIST;PEDESTRIAN;
    NO PEDESTRIANS;CHILDREN CROSSING;MENS SYMBOL;WOMENS SYMBOL;RESTROOM;BABY SYMBOL;TOILET;
    WATER CLOSET;SHOWER;BATH;BATHTUB;PASSPORT CONTROL;CUSTOMS;BAGGAGE CLAIM;LEFT LUGGAGE;
    TRIANGLE WITH ROUNDED CORNERS;PROHIBITED SIGN;CIRCLED INFORMATION SOURCE;BOYS SYMBOL;
    GIRLS SYMBOL;COUCH AND LAMP;SLEEPING ACCOMMODATION;SHOPPING BAGS;BELLHOP BELL;BED;
    PLACE OF WORSHIP;OCTAGONAL SIGN;SHOPPING TROLLEY;STUPA;PAGODA;HINDU TEMPLE;HUT;ELEVATOR/1F6DD;;
    PLAYGROUND SLIDE;WHEEL;RING BUOY;HAMMER AND WRENCH;SHIELD;OIL DRUM;MOTORWAY;RAILWAY TRACK;
    MOTOR BOAT/1F6E6;UP-POINTING ;MILITARY AIRPLANE;AIRPLANE;SMALL AIRPLANE/1F6E9;;SMALL AIRPLANE;
    NORTHEAST-POINTING AIRPLANE/1F6EB;AIRPLANE ;DEPARTURE;ARRIVING/1F6F0;;SATELLITE;
    ONCOMING FIRE ENGINE;DIESEL LOCOMOTIVE;PASSENGER SHIP;SCOOTER;MOTOR SCOOTER;CANOE;SLED;
    FLYING SAUCER;SKATEBOARD;AUTO RICKSHAW;PICKUP TRUCK;ROLLER SKATE/1F700;ALCHEMICAL SYMBOL FOR ;
    QUINTESSENCE;AIR;FIRE;EARTH;WATER;AQUAFORTIS;AQUA REGIA;AQUA REGIA-2;AQUA VITAE;AQUA VITAE-2;
    VINEGAR;VINEGAR-2;VINEGAR-3;SULFUR;PHILOSOPHERS SULFUR;BLACK SULFUR;MERCURY SUBLIMATE;
    MERCURY SUBLIMATE-2;MERCURY SUBLIMATE-3;CINNABAR;SALT;NITRE;VITRIOL;VITRIOL-2;ROCK SALT;
    ROCK SALT-2;GOLD;SILVER;IRON ORE;IRON ORE-2;CROCUS OF IRON;REGULUS OF IRON;COPPER ORE;
    IRON-COPPER ORE;SUBLIMATE OF COPPER;CROCUS OF COPPER;CROCUS OF COPPER-2;COPPER ANTIMONIATE;
    SALT OF COPPER ANTIMONIATE;SUBLIMATE OF SALT OF COPPER;VERDIGRIS;TIN ORE;LEAD ORE;ANTIMONY ORE;
    SUBLIMATE OF ANTIMONY;SALT OF ANTIMONY;SUBLIMATE OF SALT OF ANTIMONY;VINEGAR OF ANTIMONY;
    REGULUS OF ANTIMONY;REGULUS OF ANTIMONY-2;REGULUS;REGULUS-2;REGULUS-3;REGULUS-4;ALKALI;ALKALI-2;
    MARCASITE;SAL-AMMONIAC;ARSENIC;REALGAR;REALGAR-2;AURIPIGMENT;BISMUTH ORE;TARTAR;TARTAR-2;
    QUICK LIME;BORAX;BORAX-2;BORAX-3;ALUM;OIL;SPIRIT;TINCTURE;GUM;WAX;POWDER;CALX;TUTTY;
    CAPUT MORTUUM;SCEPTER OF JOVE;CADUCEUS;TRIDENT;STARRED TRIDENT;LODESTONE;SOAP;URINE;HORSE DUNG;
    ASHES;POT ASHES;BRICK;POWDERED BRICK;AMALGAM;STRATUM SUPER STRATUM;STRATUM SUPER STRATUM-2;
    SUBLIMATION;PRECIPITATE;DISTILL;DISSOLVE;DISSOLVE-2;PURIFY;PUTREFACTION;CRUCIBLE;CRUCIBLE-2;
    CRUCIBLE-3;CRUCIBLE-4;CRUCIBLE-5;ALEMBIC;BATH OF MARY;BATH OF VAPOURS;RETORT;HOUR;NIGHT;
    DAY-NIGHT;MONTH;HALF DRAM;HALF OUNCE/1F780;BLACK ;LEFT-POINTING ISOSCELES RIGHT TRIANGLE;
    UP-POINTING ISOSCELES RIGHT TRIANGLE;RIGHT-POINTING ISOSCELES RIGHT TRIANGLE;
    DOWN-POINTING ISOSCELES RIGHT TRIANGLE;SLIGHTLY SMALL CIRCLE/1F785;;MEDIUM BOLD WHITE CIRCLE;
    BOLD WHITE CIRCLE;HEAVY WHITE CIRCLE;VERY HEAVY WHITE CIRCLE;EXTREMELY HEAVY WHITE CIRCLE;
    WHITE CIRCLE CONTAINING BLACK SMALL CIRCLE;ROUND TARGET;BLACK TINY SQUARE;
    BLACK SLIGHTLY SMALL SQUARE;LIGHT WHITE SQUARE;MEDIUM WHITE SQUARE;BOLD WHITE SQUARE;
    HEAVY WHITE SQUARE;VERY HEAVY WHITE SQUARE;EXTREMELY HEAVY WHITE SQUARE/
    1F794;WHITE SQUARE CONTAINING BLACK ;VERY SMALL SQUARE;MEDIUM SQUARE/1F796;SQUARE ;TARGET/
    1F797;BLACK ;TINY DIAMOND;VERY SMALL DIAMOND;MEDIUM SMALL DIAMOND/
    1F79A;WHITE DIAMOND CONTAINING BLACK ;VERY SMALL DIAMOND;MEDIUM DIAMOND/1F79C;;DIAMOND TARGET;
    BLACK TINY LOZENGE;BLACK VERY SMALL LOZENGE;BLACK MEDIUM SMALL LOZENGE;
    WHITE LOZENGE CONTAINING BLACK SMALL LOZENGE;THIN GREEK CROSS;LIGHT GREEK CROSS;
    MEDIUM GREEK CROSS;BOLD GREEK CROSS;VERY BOLD GREEK CROSS;VERY HEAVY GREEK CROSS;
    EXTREMELY HEAVY GREEK CROSS;THIN SALTIRE;LIGHT SALTIRE;MEDIUM SALTIRE;BOLD SALTIRE;
    HEAVY SALTIRE;VERY HEAVY SALTIRE;EXTREMELY HEAVY SALTIRE;LIGHT FIVE SPOKED ASTERISK;
    MEDIUM FIVE SPOKED ASTERISK;BOLD FIVE SPOKED ASTERISK;HEAVY FIVE SPOKED ASTERISK;
    VERY HEAVY FIVE SPOKED ASTERISK;EXTREMELY HEAVY FIVE SPOKED ASTERISK;LIGHT SIX SPOKED ASTERISK;
    MEDIUM SIX SPOKED ASTERISK;BOLD SIX SPOKED ASTERISK;HEAVY SIX SPOKED ASTERISK;
    VERY HEAVY SIX SPOKED ASTERISK;EXTREMELY HEAVY SIX SPOKED ASTERISK;LIGHT EIGHT SPOKED ASTERISK;
    MEDIUM EIGHT SPOKED ASTERISK;BOLD EIGHT SPOKED ASTERISK;HEAVY EIGHT SPOKED ASTERISK;
    VERY HEAVY EIGHT SPOKED ASTERISK;LIGHT THREE POINTED BLACK STAR;MEDIUM THREE POINTED BLACK STAR;
    THREE POINTED BLACK STAR;MEDIUM THREE POINTED PINWHEEL STAR;LIGHT FOUR POINTED BLACK STAR;
    MEDIUM FOUR POINTED BLACK STAR;FOUR POINTED BLACK STAR;MEDIUM FOUR POINTED PINWHEEL STAR;
    REVERSE LIGHT FOUR POINTED PINWHEEL STAR;LIGHT FIVE POINTED BLACK STAR;
    HEAVY FIVE POINTED BLACK STAR;MEDIUM SIX POINTED BLACK STAR;HEAVY SIX POINTED BLACK STAR;
    SIX POINTED PINWHEEL STAR;MEDIUM EIGHT POINTED BLACK STAR;HEAVY EIGHT POINTED BLACK STAR;
    VERY HEAVY EIGHT POINTED BLACK STAR;HEAVY EIGHT POINTED PINWHEEL STAR;
    LIGHT TWELVE POINTED BLACK STAR/1F7D3;HEAVY TWELVE POINTED ;BLACK STAR;PINWHEEL STAR/1F7D5;;
    CIRCLED TRIANGLE;NEGATIVE CIRCLED TRIANGLE;CIRCLED SQUARE;NEGATIVE CIRCLED SQUARE/1F7E0;LARGE ;
    ORANGE CIRCLE;YELLOW CIRCLE;GREEN CIRCLE;PURPLE CIRCLE;BROWN CIRCLE;RED SQUARE;BLUE SQUARE;
    ORANGE SQUARE;YELLOW SQUARE;GREEN SQUARE;PURPLE SQUARE;BROWN SQUARE/1F7F0;HEAVY EQUALS ;SIGN/
    1F800;;LEFTWARDS ARROW WITH SMALL TRIANGLE ARROWHEAD;
    UPWARDS ARROW WITH SMALL TRIANGLE ARROWHEAD;RIGHTWARDS ARROW WITH SMALL TRIANGLE ARROWHEAD;
    DOWNWARDS ARROW WITH SMALL TRIANGLE ARROWHEAD;LEFTWARDS ARROW WITH MEDIUM TRIANGLE ARROWHEAD;
    UPWARDS ARROW WITH MEDIUM TRIANGLE ARROWHEAD;RIGHTWARDS ARROW WITH MEDIUM TRIANGLE ARROWHEAD;
    DOWNWARDS ARROW WITH MEDIUM TRIANGLE ARROWHEAD;LEFTWARDS ARROW WITH LARGE TRIANGLE ARROWHEAD;
    UPWARDS ARROW WITH LARGE TRIANGLE ARROWHEAD;RIGHTWARDS ARROW WITH LARGE TRIANGLE ARROWHEAD;
    DOWNWARDS ARROW WITH LARGE TRIANGLE ARROWHEAD/1F810;;
    LEFTWARDS ARROW WITH SMALL EQUILATERAL ARROWHEAD;UPWARDS ARROW WITH SMALL EQUILATERAL ARROWHEAD;
    RIGHTWARDS ARROW WITH SMALL EQUILATERAL ARROWHEAD;
    DOWNWARDS ARROW WITH SMALL EQUILATERAL ARROWHEAD;LEFTWARDS ARROW WITH EQUILATERAL ARROWHEAD;
    UPWARDS ARROW WITH EQUILATERAL ARROWHEAD;RIGHTWARDS ARROW WITH EQUILATERAL ARROWHEAD;
    DOWNWARDS ARROW WITH EQUILATERAL ARROWHEAD/1F818;HEAVY ;
    LEFTWARDS ARROW WITH EQUILATERAL ARROWHEAD;UPWARDS ARROW WITH EQUILATERAL ARROWHEAD;
    RIGHTWARDS ARROW WITH EQUILATERAL ARROWHEAD;DOWNWARDS ARROW WITH EQUILATERAL ARROWHEAD;
    LEFTWARDS ARROW WITH LARGE EQUILATERAL ARROWHEAD;UPWARDS ARROW WITH LARGE EQUILATERAL ARROWHEAD;
    RIGHTWARDS ARROW WITH LARGE EQUILATERAL ARROWHEAD;
    DOWNWARDS ARROW WITH LARGE EQUILATERAL ARROWHEAD/1F820;;
    LEFTWARDS TRIANGLE-HEADED ARROW WITH NARROW SHAFT;
    UPWARDS TRIANGLE-HEADED ARROW WITH NARROW SHAFT;
    RIGHTWARDS TRIANGLE-HEADED ARROW WITH NARROW SHAFT;
    DOWNWARDS TRIANGLE-HEADED ARROW WITH NARROW SHAFT;
    LEFTWARDS TRIANGLE-HEADED ARROW WITH MEDIUM SHAFT;
    UPWARDS TRIANGLE-HEADED ARROW WITH MEDIUM SHAFT;
    RIGHTWARDS TRIANGLE-HEADED ARROW WITH MEDIUM SHAFT;
    DOWNWARDS TRIANGLE-HEADED ARROW WITH MEDIUM SHAFT;
    LEFTWARDS TRIANGLE-HEADED ARROW WITH BOLD SHAFT;UPWARDS TRIANGLE-HEADED ARROW WITH BOLD SHAFT;
    RIGHTWARDS TRIANGLE-HEADED ARROW WITH BOLD SHAFT;
    DOWNWARDS TRIANGLE-HEADED ARROW WITH BOLD SHAFT;
    LEFTWARDS TRIANGLE-HEADED ARROW WITH HEAVY SHAFT;UPWARDS TRIANGLE-HEADED ARROW WITH HEAVY SHAFT;
    RIGHTWARDS TRIANGLE-HEADED ARROW WITH HEAVY SHAFT;
    DOWNWARDS TRIANGLE-HEADED ARROW WITH HEAVY SHAFT;
    LEFTWARDS TRIANGLE-HEADED ARROW WITH VERY HEAVY SHAFT;
    UPWARDS TRIANGLE-HEADED ARROW WITH VERY HEAVY SHAFT;
    RIGHTWARDS TRIANGLE-HEADED ARROW WITH VERY HEAVY SHAFT;
    DOWNWARDS TRIANGLE-HEADED ARROW WITH VERY HEAVY SHAFT;LEFTWARDS FINGER-POST ARROW;
    UPWARDS FINGER-POST ARROW;RIGHTWARDS FINGER-POST ARROW;DOWNWARDS FINGER-POST ARROW;
    LEFTWARDS SQUARED ARROW;UPWARDS SQUARED ARROW;RIGHTWARDS SQUARED ARROW;DOWNWARDS SQUARED ARROW;
    LEFTWARDS COMPRESSED ARROW;UPWARDS COMPRESSED ARROW;RIGHTWARDS COMPRESSED ARROW;
    DOWNWARDS COMPRESSED ARROW;LEFTWARDS HEAVY COMPRESSED ARROW;UPWARDS HEAVY COMPRESSED ARROW;
    RIGHTWARDS HEAVY COMPRESSED ARROW;DOWNWARDS HEAVY COMPRESSED ARROW;LEFTWARDS HEAVY ARROW;
    UPWARDS HEAVY ARROW;RIGHTWARDS HEAVY ARROW;DOWNWARDS HEAVY ARROW/1F850;;
    LEFTWARDS SANS-SERIF ARROW;UPWARDS SANS-SERIF ARROW;RIGHTWARDS SANS-SERIF ARROW;
    DOWNWARDS SANS-SERIF ARROW;NORTH WEST SANS-SERIF ARROW;NORTH EAST SANS-SERIF ARROW;
    SOUTH EAST SANS-SERIF ARROW;SOUTH WEST SANS-SERIF ARROW;LEFT RIGHT SANS-SERIF ARROW;
    UP DOWN SANS-SERIF ARROW/1F860;WIDE-HEADED ;LEFTWARDS LIGHT BARB ARROW;UPWARDS LIGHT BARB ARROW;
    RIGHTWARDS LIGHT BARB ARROW;DOWNWARDS LIGHT BARB ARROW;NORTH WEST LIGHT BARB ARROW;
    NORTH EAST LIGHT BARB ARROW;SOUTH EAST LIGHT BARB ARROW;SOUTH WEST LIGHT BARB ARROW;
    LEFTWARDS BARB ARROW;UPWARDS BARB ARROW;RIGHTWARDS BARB ARROW;DOWNWARDS BARB ARROW;
    NORTH WEST BARB ARROW;NORTH EAST BARB ARROW;SOUTH EAST BARB ARROW;SOUTH WEST BARB ARROW;
    LEFTWARDS MEDIUM BARB ARROW;UPWARDS MEDIUM BARB ARROW;RIGHTWARDS MEDIUM BARB ARROW;
    DOWNWARDS MEDIUM BARB ARROW;NORTH WEST MEDIUM BARB ARROW;NORTH EAST MEDIUM BARB ARROW;
    SOUTH EAST MEDIUM BARB ARROW;SOUTH WEST MEDIUM BARB ARROW;LEFTWARDS HEAVY BARB ARROW;
    UPWARDS HEAVY BARB ARROW;RIGHTWARDS HEAVY BARB ARROW;DOWNWARDS HEAVY BARB ARROW;
    NORTH WEST HEAVY BARB ARROW;NORTH EAST HEAVY BARB ARROW;SOUTH EAST HEAVY BARB ARROW;
    SOUTH WEST HEAVY BARB ARROW;LEFTWARDS VERY HEAVY BARB ARROW;UPWARDS VERY HEAVY BARB ARROW;
    RIGHTWARDS VERY HEAVY BARB ARROW;DOWNWARDS VERY HEAVY BARB ARROW;
    NORTH WEST VERY HEAVY BARB ARROW;NORTH EAST VERY HEAVY BARB ARROW;
    SOUTH EAST VERY HEAVY BARB ARROW;SOUTH WEST VERY HEAVY BARB ARROW/1F890;;
    LEFTWARDS TRIANGLE ARROWHEAD;UPWARDS TRIANGLE ARROWHEAD;RIGHTWARDS TRIANGLE ARROWHEAD;
    DOWNWARDS TRIANGLE ARROWHEAD;LEFTWARDS WHITE ARROW WITHIN TRIANGLE ARROWHEAD;
    UPWARDS WHITE ARROW WITHIN TRIANGLE ARROWHEAD;RIGHTWARDS WHITE ARROW WITHIN TRIANGLE ARROWHEAD;
    DOWNWARDS WHITE ARROW WITHIN TRIANGLE ARROWHEAD;LEFTWARDS ARROW WITH NOTCHED TAIL;
    UPWARDS ARROW WITH NOTCHED TAIL;RIGHTWARDS ARROW WITH NOTCHED TAIL;
    DOWNWARDS ARROW WITH NOTCHED TAIL/1F89C;HEAVY ARROW SHAFT WIDTH ;ONE;TWO THIRDS;ONE HALF;
    ONE THIRD/1F8A0;;LEFTWARDS BOTTOM-SHADED WHITE ARROW;RIGHTWARDS BOTTOM SHADED WHITE ARROW;
    LEFTWARDS TOP SHADED WHITE ARROW;RIGHTWARDS TOP SHADED WHITE ARROW;
    LEFTWARDS LEFT-SHADED WHITE ARROW;RIGHTWARDS RIGHT-SHADED WHITE ARROW;
    LEFTWARDS RIGHT-SHADED WHITE ARROW;RIGHTWARDS LEFT-SHADED WHITE ARROW;
    LEFTWARDS BACK-TILTED SHADOWED WHITE ARROW;RIGHTWARDS BACK-TILTED SHADOWED WHITE ARROW;
    LEFTWARDS FRONT-TILTED SHADOWED WHITE ARROW;RIGHTWARDS FRONT-TILTED SHADOWED WHITE ARROW/
    1F8AC;WHITE ARROW SHAFT WIDTH ;ONE;TWO THIRDS/1F8B0;ARROW POINTING ;UPWARDS THEN NORTH WEST;
    RIGHTWARDS THEN CURVING SOUTH WEST/1F900;CIRCLED CROSS ;FORMEE WITH FOUR DOTS;
    FORMEE WITH TWO DOTS;FORMEE/1F903;LEFT HALF CIRCLE WITH ;FOUR DOTS;THREE DOTS;TWO DOTS;DOT/
    1F907;LEFT HALF ;CIRCLE/1F908;DOWNWARD FACING ;HOOK;NOTCHED HOOK;HOOK WITH DOT;
    NOTCHED HOOK WITH DOT/1F90C;;PINCHED FINGERS;WHITE HEART;BROWN HEART;PINCHING HAND;
    ZIPPER-MOUTH FACE;MONEY-MOUTH FACE;FACE WITH THERMOMETER;NERD FACE;THINKING FACE;
    FACE WITH HEAD-BANDAGE;ROBOT FACE;HUGGING FACE;SIGN OF THE HORNS;CALL ME HAND;
    RAISED BACK OF HAND;LEFT-FACING FIST;RIGHT-FACING FIST;HANDSHAKE;
    HAND WITH INDEX AND MIDDLE FINGERS CROSSED;I LOVE YOU HAND SIGN;FACE WITH COWBOY HAT;CLOWN FACE;
    NAUSEATED FACE;ROLLING ON THE FLOOR LAUGHING;DROOLING FACE;LYING FACE;FACE PALM;SNEEZING FACE;
    FACE WITH ONE EYEBROW RAISED/1F929;GRINNING FACE WITH ;STAR EYES;ONE LARGE AND ONE SMALL EYE/
    1F92B;;FACE WITH FINGER COVERING CLOSED LIPS;SERIOUS FACE WITH SYMBOLS COVERING MOUTH;
    SMILING FACE WITH SMILING EYES AND HAND COVERING MOUTH;FACE WITH OPEN MOUTH VOMITING;
    SHOCKED FACE WITH EXPLODING HEAD;PREGNANT WOMAN;BREAST-FEEDING;PALMS UP TOGETHER;SELFIE;PRINCE;
    MAN IN TUXEDO;MOTHER CHRISTMAS;SHRUG;PERSON DOING CARTWHEEL;JUGGLING;FENCER;MODERN PENTATHLON;
    WRESTLERS;WATER POLO;HANDBALL;DIVING MASK;WILTED FLOWER;DRUM WITH DRUMSTICKS;CLINKING GLASSES;
    TUMBLER GLASS;SPOON;GOAL NET;RIFLE;FIRST PLACE MEDAL;SECOND PLACE MEDAL;THIRD PLACE MEDAL;
    BOXING GLOVE;MARTIAL ARTS UNIFORM;CURLING STONE;LACROSSE STICK AND BALL;SOFTBALL;FLYING DISC;
    CROISSANT;AVOCADO;CUCUMBER;BACON;POTATO;CARROT;BAGUETTE BREAD;GREEN SALAD;SHALLOW PAN OF FOOD;
    STUFFED FLATBREAD;EGG;GLASS OF MILK;PEANUTS;KIWIFRUIT;PANCAKES;DUMPLING;FORTUNE COOKIE;
    TAKEOUT BOX;CHOPSTICKS;BOWL WITH SPOON;CUP WITH STRAW;COCONUT;BROCCOLI;PIE;PRETZEL;CUT OF MEAT;
    SANDWICH;CANNED FOOD;LEAFY GREEN;MANGO;MOON CAKE;BAGEL;
    SMILING FACE WITH SMILING EYES AND THREE HEARTS;YAWNING FACE;SMILING FACE WITH TEAR;
    FACE WITH PARTY HORN AND PARTY HAT;FACE WITH UNEVEN EYES AND WAVY MOUTH;OVERHEATED FACE;
    FREEZING FACE;NINJA;DISGUISED FACE;FACE HOLDING BACK TEARS;FACE WITH PLEADING EYES;SARI;
    LAB COAT;GOGGLES;HIKING BOOT;FLAT SHOE;CRAB;LION FACE;SCORPION;TURKEY;UNICORN FACE;EAGLE;DUCK;
    BAT;SHARK;OWL;FOX FACE;BUTTERFLY;DEER;GORILLA;LIZARD;RHINOCEROS;SHRIMP;SQUID;GIRAFFE FACE;
    ZEBRA FACE;HEDGEHOG;SAUROPOD;T-REX;CRICKET;KANGAROO;LLAMA;PEACOCK;HIPPOPOTAMUS;PARROT;RACCOON;
    LOBSTER;MOSQUITO;MICROBE;BADGER;SWAN;MAMMOTH;DODO;SLOTH;OTTER;ORANGUTAN;SKUNK;FLAMINGO;OYSTER;
    BEAVER;BISON;SEAL;GUIDE DOG;PROBING CANE/1F9B0;EMOJI COMPONENT ;RED HAIR;CURLY HAIR;BALD;
    WHITE HAIR/1F9B4;;BONE;LEG;FOOT;TOOTH;SUPERHERO;SUPERVILLAIN;SAFETY VEST;EAR WITH HEARING AID;
    MOTORIZED WHEELCHAIR;MANUAL WHEELCHAIR;MECHANICAL ARM;MECHANICAL LEG;CHEESE WEDGE;CUPCAKE;
    SALT SHAKER;BEVERAGE BOX;GARLIC;ONION;FALAFEL;WAFFLE;BUTTER;MATE DRINK;ICE CUBE;BUBBLE TEA;
    TROLL;STANDING PERSON;KNEELING PERSON;DEAF PERSON;FACE WITH MONOCLE;ADULT;CHILD;OLDER ADULT;
    BEARDED PERSON/1F9D5;PERSON ;WITH HEADSCARF;IN STEAMY ROOM;CLIMBING;IN LOTUS POSITION/1F9D9;;
    MAGE;FAIRY;VAMPIRE;MERPERSON;ELF;GENIE;ZOMBIE;BRAIN;ORANGE HEART;BILLED CAP;SCARF;GLOVES;COAT;
    SOCKS;RED GIFT ENVELOPE;FIRECRACKER;JIGSAW PUZZLE PIECE;TEST TUBE;PETRI DISH;DNA DOUBLE HELIX;
    COMPASS;ABACUS;FIRE EXTINGUISHER;TOOLBOX;BRICK;MAGNET;LUGGAGE;LOTION BOTTLE;SPOOL OF THREAD;
    BALL OF YARN;SAFETY PIN;TEDDY BEAR;BROOM;BASKET;ROLL OF PAPER;BAR OF SOAP;SPONGE;RECEIPT;
    NAZAR AMULET/1FA00;NEUTRAL CHESS ;KING;QUEEN;ROOK;BISHOP;KNIGHT;PAWN/1FA06;;
    WHITE CHESS KNIGHT ROTATED FORTY-FIVE DEGREES;BLACK CHESS KNIGHT ROTATED FORTY-FIVE DEGREES;
    NEUTRAL CHESS KNIGHT ROTATED FORTY-FIVE DEGREES/1FA09;WHITE CHESS ;KING ROTATED NINETY DEGREES;
    QUEEN ROTATED NINETY DEGREES;ROOK ROTATED NINETY DEGREES;BISHOP ROTATED NINETY DEGREES;
    KNIGHT ROTATED NINETY DEGREES;PAWN ROTATED NINETY DEGREES/1FA0F;BLACK CHESS ;
    KING ROTATED NINETY DEGREES;QUEEN ROTATED NINETY DEGREES;ROOK ROTATED NINETY DEGREES;
    BISHOP ROTATED NINETY DEGREES;KNIGHT ROTATED NINETY DEGREES;PAWN ROTATED NINETY DEGREES/
    1FA15;NEUTRAL CHESS ;KING ROTATED NINETY DEGREES;QUEEN ROTATED NINETY DEGREES;
    ROOK ROTATED NINETY DEGREES;BISHOP ROTATED NINETY DEGREES;KNIGHT ROTATED NINETY DEGREES;
    PAWN ROTATED NINETY DEGREES/1FA1B;;WHITE CHESS KNIGHT ROTATED ONE HUNDRED THIRTY-FIVE DEGREES;
    BLACK CHESS KNIGHT ROTATED ONE HUNDRED THIRTY-FIVE DEGREES;
    NEUTRAL CHESS KNIGHT ROTATED ONE HUNDRED THIRTY-FIVE DEGREES/1FA1E;WHITE CHESS TURNED ;KING;
    QUEEN;ROOK;BISHOP;KNIGHT;PAWN/1FA24;BLACK CHESS TURNED ;KING;QUEEN;ROOK;BISHOP;KNIGHT;PAWN/
    1FA2A;NEUTRAL CHESS TURNED ;KING;QUEEN;ROOK;BISHOP;KNIGHT;PAWN/1FA30;;
    WHITE CHESS KNIGHT ROTATED TWO HUNDRED TWENTY-FIVE DEGREES;
    BLACK CHESS KNIGHT ROTATED TWO HUNDRED TWENTY-FIVE DEGREES;
    NEUTRAL CHESS KNIGHT ROTATED TWO HUNDRED TWENTY-FIVE DEGREES/1FA33;WHITE CHESS ;
    KING ROTATED TWO HUNDRED SEVENTY DEGREES;QUEEN ROTATED TWO HUNDRED SEVENTY DEGREES;
    ROOK ROTATED TWO HUNDRED SEVENTY DEGREES;BISHOP ROTATED TWO HUNDRED SEVENTY DEGREES;
    KNIGHT ROTATED TWO HUNDRED SEVENTY DEGREES;PAWN ROTATED TWO HUNDRED SEVENTY DEGREES/
    1FA39;BLACK CHESS ;KING ROTATED TWO HUNDRED SEVENTY DEGREES;
    QUEEN ROTATED TWO HUNDRED SEVENTY DEGREES;ROOK ROTATED TWO HUNDRED SEVENTY DEGREES;
    BISHOP ROTATED TWO HUNDRED SEVENTY DEGREES;KNIGHT ROTATED TWO HUNDRED SEVENTY DEGREES;
    PAWN ROTATED TWO HUNDRED SEVENTY DEGREES/1FA3F;NEUTRAL CHESS ;
    KING ROTATED TWO HUNDRED SEVENTY DEGREES;QUEEN ROTATED TWO HUNDRED SEVENTY DEGREES;
    ROOK ROTATED TWO HUNDRED SEVENTY DEGREES;BISHOP ROTATED TWO HUNDRED SEVENTY DEGREES;
    KNIGHT ROTATED TWO HUNDRED SEVENTY DEGREES;PAWN ROTATED TWO HUNDRED SEVENTY DEGREES/1FA45;;
    WHITE CHESS KNIGHT ROTATED THREE HUNDRED FIFTEEN DEGREES;
    BLACK CHESS KNIGHT ROTATED THREE HUNDRED FIFTEEN DEGREES;
    NEUTRAL CHESS KNIGHT ROTATED THREE HUNDRED FIFTEEN DEGREES;WHITE CHESS EQUIHOPPER;
    BLACK CHESS EQUIHOPPER;NEUTRAL CHESS EQUIHOPPER;WHITE CHESS EQUIHOPPER ROTATED NINETY DEGREES;
    BLACK CHESS EQUIHOPPER ROTATED NINETY DEGREES;NEUTRAL CHESS EQUIHOPPER ROTATED NINETY DEGREES/
    1FA4E;WHITE CHESS KNIGHT-;QUEEN;ROOK;BISHOP/1FA51;BLACK CHESS KNIGHT-;QUEEN;ROOK;BISHOP/
    1FA60;XIANGQI RED ;GENERAL;MANDARIN;ELEPHANT;HORSE;CHARIOT;CANNON;SOLDIER/1FA67;XIANGQI BLACK ;
    GENERAL;MANDARIN;ELEPHANT;HORSE;CHARIOT;CANNON;SOLDIER/1FA70;;BALLET SHOES;ONE-PIECE SWIMSUIT;
    BRIEFS;SHORTS;THONG SANDAL/1FA78;;DROP OF BLOOD;ADHESIVE BANDAGE;STETHOSCOPE;X-RAY;CRUTCH/
    1FA80;;YO-YO;KITE;PARACHUTE;BOOMERANG;MAGIC WAND;PINATA;NESTING DOLLS/1FA90;;RINGED PLANET;
    CHAIR;RAZOR;AXE;DIYA LAMP;BANJO;MILITARY HELMET;ACCORDION;LONG DRUM;COIN;CARPENTRY SAW;
    SCREWDRIVER;LADDER;HOOK;MIRROR;WINDOW;PLUNGER;SEWING NEEDLE;KNOT;BUCKET;MOUSE TRAP;TOOTHBRUSH;
    HEADSTONE;PLACARD;ROCK;MIRROR BALL;IDENTIFICATION CARD;LOW BATTERY;HAMSA/1FAB0;;FLY;WORM;BEETLE;
    COCKROACH;POTTED PLANT;WOOD;FEATHER;LOTUS;CORAL;EMPTY NEST;NEST WITH EGGS/1FAC0;;
    ANATOMICAL HEART;LUNGS;PEOPLE HUGGING;PREGNANT MAN;PREGNANT PERSON;PERSON WITH CROWN/1FAD0;;
    BLUEBERRIES;BELL PEPPER;OLIVE;FLATBREAD;TAMALE;FONDUE;TEAPOT;POURING LIQUID;BEANS;JAR/1FAE0;;
    MELTING FACE;SALUTING FACE/1FAE2;FACE WITH ;OPEN EYES AND HAND OVER MOUTH;PEEKING EYE;
    DIAGONAL MOUTH/1FAE5;;DOTTED LINE FACE;BITING LIP;BUBBLES/1FAF0;;
    HAND WITH INDEX FINGER AND THUMB CROSSED;RIGHTWARDS HAND;LEFTWARDS HAND;PALM DOWN HAND;
    PALM UP HAND;INDEX POINTING AT THE VIEWER;HEART HANDS/1FB00;BLOCK SEXTANT-;1;2;12;3;13;23;123;4;
    14;24;124;34;134;234;1234;5;15;25;125;35;235;1235;45;145;245;1245;345;1345;2345;12345;6;16;26;
    126;36;136;236;1236;46;146;1246;346;1346;2346;12346;56;156;256;1256;356;1356;2356;12356;456;
    1456;2456;12456;3456;13456;23456/1FB3C;LOWER LEFT BLOCK DIAGONAL LOWER MIDDLE LEFT TO LOWER ;
    CENTRE;RIGHT/1FB3E;LOWER LEFT BLOCK DIAGONAL UPPER ;MIDDLE LEFT TO LOWER CENTRE;
    MIDDLE LEFT TO LOWER RIGHT;LEFT TO LOWER CENTRE/
    1FB41;LOWER RIGHT BLOCK DIAGONAL UPPER MIDDLE LEFT TO UPPER ;CENTRE;RIGHT/
    1FB43;LOWER RIGHT BLOCK DIAGONAL LOWER ;MIDDLE LEFT TO UPPER CENTRE;MIDDLE LEFT TO UPPER RIGHT;
    LEFT TO UPPER CENTRE;MIDDLE LEFT TO UPPER MIDDLE RIGHT;CENTRE TO LOWER MIDDLE RIGHT;
    LEFT TO LOWER MIDDLE RIGHT;CENTRE TO UPPER MIDDLE RIGHT;LEFT TO UPPER MIDDLE RIGHT;
    CENTRE TO UPPER RIGHT/1FB4C;LOWER LEFT BLOCK DIAGONAL UPPER ;CENTRE TO UPPER MIDDLE RIGHT;
    LEFT TO UPPER MIDDLE RIGHT;CENTRE TO LOWER MIDDLE RIGHT;LEFT TO LOWER MIDDLE RIGHT;
    CENTRE TO LOWER RIGHT;MIDDLE LEFT TO LOWER MIDDLE RIGHT/
    1FB52;UPPER RIGHT BLOCK DIAGONAL LOWER MIDDLE LEFT TO LOWER ;CENTRE;RIGHT/
    1FB54;UPPER RIGHT BLOCK DIAGONAL UPPER ;MIDDLE LEFT TO LOWER CENTRE;MIDDLE LEFT TO LOWER RIGHT;
    LEFT TO LOWER CENTRE/1FB57;UPPER LEFT BLOCK DIAGONAL UPPER MIDDLE LEFT TO UPPER ;CENTRE;RIGHT/
    1FB59;UPPER LEFT BLOCK DIAGONAL LOWER ;MIDDLE LEFT TO UPPER CENTRE;MIDDLE LEFT TO UPPER RIGHT;
    LEFT TO UPPER CENTRE;MIDDLE LEFT TO UPPER MIDDLE RIGHT;CENTRE TO LOWER MIDDLE RIGHT;
    LEFT TO LOWER MIDDLE RIGHT;CENTRE TO UPPER MIDDLE RIGHT;LEFT TO UPPER MIDDLE RIGHT;
    CENTRE TO UPPER RIGHT/1FB62;UPPER RIGHT BLOCK DIAGONAL UPPER ;CENTRE TO UPPER MIDDLE RIGHT;
    LEFT TO UPPER MIDDLE RIGHT;CENTRE TO LOWER MIDDLE RIGHT;LEFT TO LOWER MIDDLE RIGHT;
    CENTRE TO LOWER RIGHT;MIDDLE LEFT TO LOWER MIDDLE RIGHT/1FB68;;
    UPPER AND RIGHT AND LOWER TRIANGULAR THREE QUARTERS BLOCK;
    LEFT AND LOWER AND RIGHT TRIANGULAR THREE QUARTERS BLOCK;
    UPPER AND LEFT AND LOWER TRIANGULAR THREE QUARTERS BLOCK;
    LEFT AND UPPER AND RIGHT TRIANGULAR THREE QUARTERS BLOCK;LEFT TRIANGULAR ONE QUARTER BLOCK;
    UPPER TRIANGULAR ONE QUARTER BLOCK;RIGHT TRIANGULAR ONE QUARTER BLOCK;
    LOWER TRIANGULAR ONE QUARTER BLOCK/1FB70;VERTICAL ONE EIGHTH BLOCK-;2;3;4;5;6;7/
    1FB76;HORIZONTAL ONE EIGHTH BLOCK-;2;3;4;5;6;7/1FB7C;LEFT AND ;LOWER ONE EIGHTH BLOCK;
    UPPER ONE EIGHTH BLOCK/1FB7E;RIGHT AND ;UPPER ONE EIGHTH BLOCK;LOWER ONE EIGHTH BLOCK/1FB80;;
    UPPER AND LOWER ONE EIGHTH BLOCK;HORIZONTAL ONE EIGHTH BLOCK-1358/1FB82;UPPER ;
    ONE QUARTER BLOCK;THREE EIGHTHS BLOCK;FIVE EIGHTHS BLOCK;THREE QUARTERS BLOCK;
    SEVEN EIGHTHS BLOCK/1FB87;RIGHT ;ONE QUARTER BLOCK;THREE EIGHTHS BLOCK;FIVE EIGHTHS BLOCK;
    THREE QUARTERS BLOCK;SEVEN EIGHTHS BLOCK/1FB8C;;LEFT HALF MEDIUM SHADE;RIGHT HALF MEDIUM SHADE;
    UPPER HALF MEDIUM SHADE;LOWER HALF MEDIUM SHADE;INVERSE MEDIUM SHADE/1FB91;UPPER HALF ;
    BLOCK AND LOWER HALF INVERSE MEDIUM SHADE;INVERSE MEDIUM SHADE AND LOWER HALF BLOCK/1FB94;;
    LEFT HALF INVERSE MEDIUM SHADE AND RIGHT HALF BLOCK;CHECKER BOARD FILL;
    INVERSE CHECKER BOARD FILL;HEAVY HORIZONTAL FILL;UPPER LEFT TO LOWER RIGHT FILL;
    UPPER RIGHT TO LOWER LEFT FILL;UPPER AND LOWER TRIANGULAR HALF BLOCK;
    LEFT AND RIGHT TRIANGULAR HALF BLOCK;UPPER LEFT TRIANGULAR MEDIUM SHADE;
    UPPER RIGHT TRIANGULAR MEDIUM SHADE;LOWER RIGHT TRIANGULAR MEDIUM SHADE;
    LOWER LEFT TRIANGULAR MEDIUM SHADE/1FBA0;BOX DRAWINGS LIGHT DIAGONAL ;
    UPPER CENTRE TO MIDDLE LEFT;UPPER CENTRE TO MIDDLE RIGHT;MIDDLE LEFT TO LOWER CENTRE;
    MIDDLE RIGHT TO LOWER CENTRE;UPPER CENTRE TO MIDDLE LEFT TO LOWER CENTRE;
    UPPER CENTRE TO MIDDLE RIGHT TO LOWER CENTRE;MIDDLE LEFT TO LOWER CENTRE TO MIDDLE RIGHT;
    MIDDLE LEFT TO UPPER CENTRE TO MIDDLE RIGHT;
    UPPER CENTRE TO MIDDLE LEFT AND MIDDLE RIGHT TO LOWER CENTRE;
    UPPER CENTRE TO MIDDLE RIGHT AND MIDDLE LEFT TO LOWER CENTRE;
    UPPER CENTRE TO MIDDLE RIGHT TO LOWER CENTRE TO MIDDLE LEFT;
    UPPER CENTRE TO MIDDLE LEFT TO LOWER CENTRE TO MIDDLE RIGHT;
    MIDDLE LEFT TO UPPER CENTRE TO MIDDLE RIGHT TO LOWER CENTRE;
    MIDDLE RIGHT TO UPPER CENTRE TO MIDDLE LEFT TO LOWER CENTRE;DIAMOND/1FBAF;;
    BOX DRAWINGS LIGHT HORIZONTAL WITH VERTICAL STROKE;ARROWHEAD-SHAPED POINTER;INVERSE CHECK MARK;
    LEFT HALF RUNNING MAN;RIGHT HALF RUNNING MAN;INVERSE DOWNWARDS ARROW WITH TIP LEFTWARDS;
    LEFTWARDS ARROW AND UPPER AND LOWER ONE EIGHTH BLOCK;
    RIGHTWARDS ARROW AND UPPER AND LOWER ONE EIGHTH BLOCK;
    DOWNWARDS ARROW AND RIGHT ONE EIGHTH BLOCK;UPWARDS ARROW AND RIGHT ONE EIGHTH BLOCK;
    LEFT HALF FOLDER;RIGHT HALF FOLDER;VOIDED GREEK CROSS;RIGHT OPEN SQUARED DOT/
    1FBBD;NEGATIVE DIAGONAL ;CROSS;MIDDLE RIGHT TO LOWER CENTRE;DIAMOND/1FBC0;;
    WHITE HEAVY SALTIRE WITH ROUNDED CORNERS;LEFT THIRD WHITE RIGHT POINTING INDEX;
    MIDDLE THIRD WHITE RIGHT POINTING INDEX;RIGHT THIRD WHITE RIGHT POINTING INDEX;
    NEGATIVE SQUARED QUESTION MARK;STICK FIGURE/1FBC6;STICK FIGURE ;WITH ARMS RAISED;LEANING LEFT;
    LEANING RIGHT;WITH DRESS/1FBCA;WHITE UP-POINTING ;CHEVRON/1FBF0;SEGMENTED DIGIT ;ZERO;ONE;TWO;
    THREE;FOUR;FIVE;SIX;SEVEN;EIGHT;NINE/E0001;LANGUAGE ;TAG/E0020;TAG ;SPACE;EXCLAMATION MARK;
    QUOTATION MARK;NUMBER SIGN;DOLLAR SIGN;PERCENT SIGN;AMPERSAND;APOSTROPHE;LEFT PARENTHESIS;
    RIGHT PARENTHESIS;ASTERISK;PLUS SIGN;COMMA;HYPHEN-MINUS;FULL STOP;SOLIDUS/E0030;TAG DIGIT ;ZERO;
    ONE;TWO;THREE;FOUR;FIVE;SIX;SEVEN;EIGHT;NINE/E003A;TAG ;COLON;SEMICOLON;LESS-THAN SIGN;
    EQUALS SIGN;GREATER-THAN SIGN;QUESTION MARK;COMMERCIAL AT/E0041;TAG LATIN CAPITAL LETTER ;A;B;C;
    D;E;F;G;H;I;J;K;L;M;N;O;P;Q;R;S;T;U;V;W;X;Y;Z/E005B;TAG ;LEFT SQUARE BRACKET;REVERSE SOLIDUS;
    RIGHT SQUARE BRACKET;CIRCUMFLEX ACCENT;LOW LINE;GRAVE ACCENT/E0061;TAG LATIN SMALL LETTER ;A;B;
    C;D;E;F;G;H;I;J;K;L;M;N;O;P;Q;R;S;T;U;V;W;X;Y;Z/E007B;TAG ;LEFT CURLY BRACKET;VERTICAL LINE;
    RIGHT CURLY BRACKET;TILDE/E007F;CANCEL ;TAG/E0100;VARIATION SELECTOR-;17;18;19;20;21;22;23;24;
    25;26;27;28;29;30;31;32;33;34;35;36;37;38;39;40;41;42;43;44;45;46;47;48;49;50;51;52;53;54;55;56;
    57;58;59;60;61;62;63;64;65;66;67;68;69;70;71;72;73;74;75;76;77;78;79;80;81;82;83;84;85;86;87;88;
    89;90;91;92;93;94;95;96;97;98;99;100;101;102;103;104;105;106;107;108;109;110;111;112;113;114;
    115;116;117;118;119;120;121;122;123;124;125;126;127;128;129;130;131;132;133;134;135;136;137;138;
    139;140;141;142;143;144;145;146;147;148;149;150;151;152;153;154;155;156;157;158;159;160;161;162;
    163;164;165;166;167;168;169;170;171;172;173;174;175;176;177;178;179;180;181;182;183;184;185;186;
    187;188;189;190;191;192;193;194;195;196;197;198;199;200;201;202;203;204;205;206;207;208;209;210;
    211;212;213;214;215;216;217;218;219;220;221;222;223;224;225;226;227;228;229;230;231;232;233;234;
    235;236;237;238;239;240;241;242;243;244;245;246;247;248;249;250;251;252;253;254;255;256"

end CharNames
end Text
end CallPolicy
