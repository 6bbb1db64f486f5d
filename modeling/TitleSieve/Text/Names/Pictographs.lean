/-!
Names of characters: notations of music and of mathematics, pictographs, and tags.
-/

namespace TitleSieve.Text

private def pictographNames1 : List String :=
  ["1cf00:ZNAMENNY COMBINING MARK GORAZDO NIZKO S KRYZHEM ON LEFT;3NIZKO S KRYZHEM ON LEFT",
   "3TSATA ON LEFT;3GORAZDO NIZKO ON LEFT;3NIZKO ON LEFT;3SREDNE ON LEFT;3MALO POVYSHE ON LEFT",
   "3POVYSHE ON LEFT;3VYSOKO ON LEFT;3MALO POVYSHE S KHOKHLOM ON LEFT;3POVYSHE S KHOKHLOM ON LEFT",
   "3VYSOKO S KHOKHLOM ON LEFT;3GORAZDO NIZKO S KRYZHEM ON RIGHT;3NIZKO S KRYZHEM ON RIGHT",
   "3TSATA ON RIGHT;3GORAZDO NIZKO ON RIGHT;3NIZKO ON RIGHT;3SREDNE ON RIGHT",
   "3MALO POVYSHE ON RIGHT;3POVYSHE ON RIGHT;3VYSOKO ON RIGHT;3MALO POVYSHE S KHOKHLOM ON RIGHT",
   "3POVYSHE S KHOKHLOM ON RIGHT;3VYSOKO S KHOKHLOM ON RIGHT;3TSATA S KRYZHEM",
   "3MALO POVYSHE S KRYZHEM;3STRANNO MALO POVYSHE;3POVYSHE S KRYZHEM;4STRANNO;3VYSOKO S KRYZHEM",
   "3MALO POVYSHE STRANNO;3GORAZDO VYSOKO;3ZELO;3ON;3RAVNO;3TIKHAYA;3BORZAYA;3UDARKA;3PODVERTKA",
   "3LOMKA;3KUPNAYA;3KACHKA;3ZEVOK;3SKOBA;3RAZSEKA;3KRYZH ON LEFT;1cf30:2TONAL RANGE MARK MRACHNO",
   "5SVETLO;5TRESVETLO;2MARK ZADERZHKA;3DEMESTVENNY ZADERZHKA;3OTSECHKA;3PODCHASHIE",
   "3PODCHASHIE WITH VERTICAL STROKE;3CHASHKA;3CHASHKA POLNAYA;3OBLACHKO;3SOROCHYA NOZHKA;3TOCHKA",
   "3DVOETOCHIE;2ATTACHING VERTICAL OMET;2MARK CURVED OMET;3KRYZH;2LOWER TONAL RANGE INDICATOR",
   "1PRIZNAK MODIFIER LEVEL-2;43;3DIRECTION FLIP;3KRYZH;3ROG;1cf50:1NEUME KRYUK;2KRYUK TIKHY",
   "2PARAKLIT;2DVA V CHELNU;2KLYUCH;2ZANOZHEK;2STOPITSA;2STOPITSA S OCHKOM;2PEREVODKA",
   "2PEREVODKA NEPOSTOYANNAYA;2STOPITSA WITH SOROCHYA NOZHKA;2CHELYUSTKA;2PALKA;2ZAPYATAYA",
   "2GOLUBCHIK BORZY;3TIKHY;3MRACHNY;3SVETLY;3TRESVETLY;2VRAKHIYA PROSTAYA;3MRACHNAYA;3SVETLAYA",
   "3TRESVETLAYA;3KLYUCHEVAYA PROSTAYA;4MRACHNAYA;4SVETLAYA;4TRESVETLAYA;2DOUBLE ZAPYATAYA",
   "2REVERSED CHELYUSTKA;2DERBITSA;2KHAMILO;2CHASHKA;2PODCHASHIE;2SKAMEYTSA MRACHNAYA;3SVETLAYA",
   "3TRESVETLAYA;3TIKHAYA;2DEMESTVENNY KLYUCH;2SKAMEYTSA KLYUCHEVAYA SVETLAYA",
   "3KLYUCHENEPOSTOYANNAYA;3KLYUCHEVAYA TIKHAYA;3DVOECHELNAYA PROSTAYA;4SVETLAYA;4NEPOSTOYANNAYA",
   "4KLYUCHEVAYA;2SLOZHITIE;2SLOZHITIE S ZAPYATOY;3ZAKRYTOE;3S KRYZHEM;2KRYZH;2ROG;2FITA;2KOBYLA",
   "2ZMEYTSA;2STATYA;2STATYA S ZAPYATOY;4KRYZHEM;4ZAPYATOY I KRYZHEM;4KRYZHEM I ZAPYATOY",
   "3ZAKRYTAYA;3ZAKRYTAYA S ZAPYATOY;3S ROGOM;4DVUMYA ZAPYATYMI;4ZAPYATOY I PODCHASHIEM",
   "2POLKULIZMY;2STATYA NEPOSTOYANNAYA;2STRELA PROSTAYA;3MRACHNOTIKHAYA;3KRYZHEVAYA;3POLUPOVODNAYA",
   "3POVODNAYA;3NEPOSTOYANNAYA;3KLYUCHEPOVODNAYA;3KLYUCHENEPOSTOYANNAYA;3TIKHAYA PUTNAYA",
   "3DVOECHELNAYA;3DVOECHELNOKRYZHEVAYA;3DVOECHELNOPOVODNAYA;3DVOECHELNAYA KLYUCHEVAYA",
   "3DVOECHELNOPOVODNAYA KLYUCHEVAYA;3GROMNAYA WITH SINGLE ZAPYATAYA",
   "3GROMOPOVODNAYA WITH SINGLE ZAPYATAYA;3GROMNAYA;3GROMOPOVODNAYA",
   "3GROMOPOVODNAYA WITH DOUBLE ZAPYATAYA;3GROMOKRYZHEVAYA;3GROMOKRYZHEVAYA POVODNAYA;2MECHIK",
   "2MECHIK POVODNY;3KLYUCHEVOY;3KLYUCHEPOVODNY;3KLYUCHENEPOSTOYANNY;2STRELA TRYASOGLASNAYA",
   "3TRYASOPOVODNAYA;3TRYASOSTRELNAYA;2OSOKA;2OSOKA SVETLAYA;3TRESVETLAYA;3KRYUKOVAYA SVETLAYA",
   "3KLYUCHEVAYA SVETLAYA;4NEPOSTOYANNAYA;2STRELA KRYUKOVAYA;3KRYUKOVAYA POVODNAYA",
   "4GROMNAYA WITH SINGLE ZAPYATAYA;4GROMOPOVODNAYA WITH SINGLE ZAPYATAYA;4GROMNAYA",
   "4GROMOPOVODNAYA;4GROMOPOVODNAYA WITH DOUBLE ZAPYATAYA;4GROMOKRYZHEVAYA",
   "4GROMOKRYZHEVAYA POVODNAYA;4TRYASKA;2KUFISMA;2OBLAKO;2DUDA;2NEMKA;2PAUK",
   "1d000:BYZANTINE MUSICAL SYMBOL PSILI;3DASEIA;3PERISPOMENI;3OXEIA EKFONITIKON;4DIPLI",
   "3VAREIA EKFONITIKON;4DIPLI;3KATHISTI;3SYRMATIKI;3PARAKLITIKI;3YPOKRISIS;3YPOKRISIS DIPLI",
   "3KREMASTI;3APESO EKFONITIKON;3EXO EKFONITIKON;3TELEIA;3KENTIMATA;3APOSTROFOS;3APOSTROFOS DIPLI",
   "3SYNEVMA;3THITA;3OLIGON ARCHAION;3GORGON ARCHAION;3PSILON;3CHAMILON;3VATHY;3ISON ARCHAION",
   "3KENTIMA ARCHAION;3KENTIMATA ARCHAION;3SAXIMATA;3PARICHON;3STAVROS APODEXIA;3OXEIAI ARCHAION",
   "3VAREIAI ARCHAION;3APODERMA ARCHAION;3APOTHEMA;3KLASMA;3REVMA;3PIASMA ARCHAION;3TINAGMA",
   "3ANATRICHISMA;3SEISMA;3SYNAGMA ARCHAION;4META STAVROU;3OYRANISMA ARCHAION;3THEMA;3LEMOI;3DYO",
   "3TRIA;3TESSERA;3KRATIMATA;3APESO EXO NEO;3FTHORA ARCHAION;3IMIFTHORA;3TROMIKON ARCHAION",
   "3KATAVA TROMIKON;3PELASTON;3PSIFISTON;3KONTEVMA;3CHOREVMA ARCHAION;3RAPISMA",
   "3PARAKALESMA ARCHAION;3PARAKLITIKI ARCHAION;3ICHADIN;3NANA;3PETASMA;3KONTEVMA ALLO",
   "3TROMIKON ALLO;3STRAGGISMATA;3GRONTHISMATA;3ISON NEO;3OLIGON NEO;3OXEIA NEO;3PETASTI;3KOUFISMA",
   "3PETASTOKOUFISMA;3KRATIMOKOUFISMA;3PELASTON NEO;3KENTIMATA NEO ANO;3KENTIMA NEO ANO;3YPSILI",
   "3APOSTROFOS NEO;3APOSTROFOI SYNDESMOS NEO;3YPORROI;3KRATIMOYPORROON;3ELAFRON;3CHAMILI",
   "3MIKRON ISON;3VAREIA NEO;3PIASMA NEO;3PSIFISTON NEO;3OMALON;3ANTIKENOMA;3LYGISMA",
   "3PARAKLITIKI NEO;3PARAKALESMA NEO;3ETERON PARAKALESMA;3KYLISMA;3ANTIKENOKYLISMA;3TROMIKON NEO",
   "3EKSTREPTON;3SYNAGMA NEO;3SYRMA;3CHOREVMA NEO;3EPEGERMA;3SEISMA NEO;3XIRON KLASMA",
   "3TROMIKOPSIFISTON;3PSIFISTOLYGISMA;3TROMIKOLYGISMA;3TROMIKOPARAKALESMA;3PSIFISTOPARAKALESMA",
   "3TROMIKOSYNAGMA;3PSIFISTOSYNAGMA;3GORGOSYNTHETON;3ARGOSYNTHETON;3ETERON ARGOSYNTHETON",
   "3OYRANISMA NEO;3THEMATISMOS ESO;4EXO;3THEMA APLOUN;3THES KAI APOTHES;3KATAVASMA;3ENDOFONON",
   "3YFEN KATO;4ANO;3STAVROS;3KLASMA ANO;3DIPLI ARCHAION;3KRATIMA ARCHAION;4ALLO;4NEO",
   "3APODERMA NEO;3APLI;3DIPLI;3TRIPLI;3TETRAPLI;3KORONIS;3LEIMMA ENOS CHRONOU;4DYO CHRONON",
   "4TRION CHRONON;4TESSARON CHRONON;4IMISEOS CHRONOU;3GORGON NEO ANO;4PARESTIGMENON ARISTERA",
   "5DEXIA;3DIGORGON;3DIGORGON PARESTIGMENON ARISTERA KATO;6ANO;5DEXIA;3TRIGORGON;3ARGON",
   "3IMIDIARGON;3DIARGON;3AGOGI POLI ARGI;4ARGOTERI;4ARGI;4METRIA;4MESI;4GORGI;4GORGOTERI",
   "4POLI GORGI;3MARTYRIA PROTOS ICHOS;4ALLI PROTOS ICHOS;4DEYTEROS ICHOS;4ALLI DEYTEROS ICHOS",
   "4TRITOS ICHOS;4TRIFONIAS;4TETARTOS ICHOS;5LEGETOS ICHOS;4LEGETOS ICHOS;4PLAGIOS ICHOS",
   "3ISAKIA TELOUS ICHIMATOS;3APOSTROFOI TELOUS ICHIMATOS;3FANEROSIS TETRAFONIAS;4MONOFONIAS",
   "4DIFONIAS;3MARTYRIA VARYS ICHOS;4PROTOVARYS ICHOS;4PLAGIOS TETARTOS ICHOS;3GORTHMIKON N APLOUN",
   "5DIPLOUN;3ENARXIS KAI FTHORA VOU;3IMIFONON;3IMIFTHORON;3FTHORA ARCHAION DEYTEROU ICHOU",
   "4DIATONIKI PA;5NANA;4NAOS ICHOS;4DIATONIKI DI;4SKLIRON DIATONON DI;4DIATONIKI KE;5ZO;5NI KATO",
   "6ANO;4MALAKON CHROMA DIFONIAS;6MONOFONIAS;3FHTORA SKLIRON CHROMA VASIS",
   "3FTHORA SKLIRON CHROMA SYNAFI;4NENANO;3CHROA ZYGOS;4KLITON;4SPATHI",
   "3FTHORA I YFESIS TETARTIMORION;4ENARMONIOS ANTIFONIA;3YFESIS TRITIMORION;3DIESIS TRITIMORION",
   "4TETARTIMORION;4APLI DYO DODEKATA;4MONOGRAMMOS TESSERA DODEKATA;4DIGRAMMOS EX DODEKATA",
   "4TRIGRAMMOS OKTO DODEKATA;3YFESIS APLI DYO DODEKATA;4MONOGRAMMOS TESSERA DODEKATA",
   "4DIGRAMMOS EX DODEKATA;4TRIGRAMMOS OKTO DODEKATA;3GENIKI DIESIS;4YFESIS;3DIASTOLI APLI MIKRI",
   "5MEGALI;4DIPLI;4THESEOS;3SIMANSIS THESEOS;4THESEOS DISIMOU;5TRISIMOU;5TETRASIMOU;4ARSEOS",
   "4ARSEOS DISIMOU;5TRISIMOU;5TETRASIMOU;3DIGRAMMA GG;3DIFTOGGOS OU;3STIGMA;3ARKTIKO PA;4VOU;4GA",
   "4DI;4KE;4ZO;4NI;3KENTIMATA NEO MESO;3KENTIMA NEO MESO;3KENTIMATA NEO KATO;3KENTIMA NEO KATO",
   "3KLASMA KATO;3GORGON NEO KATO;1d100:MUSICAL SYMBOL SINGLE BARLINE;2DOUBLE BARLINE",
   "2FINAL BARLINE;2REVERSE FINAL BARLINE;2DASHED BARLINE;2SHORT BARLINE;2LEFT REPEAT SIGN",
   "2RIGHT REPEAT SIGN;2REPEAT DOTS;2DAL SEGNO;2DA CAPO;2SEGNO;2CODA;2REPEATED FIGURE-1;42;43",
   "2FERMATA;2FERMATA BELOW;2BREATH MARK;2CAESURA;2BRACE;2BRACKET;2ONE-LINE STAFF;2TWO-LINE STAFF",
   "2THREE-LINE STAFF;2FOUR-LINE STAFF;2FIVE-LINE STAFF;2SIX-LINE STAFF;3STRING FRETBOARD",
   "2FOUR-STRING FRETBOARD;2G CLEF;3CLEF OTTAVA ALTA;5BASSA;2C CLEF;2F CLEF;3CLEF OTTAVA ALTA",
   "5BASSA;2DRUM CLEF-1;42;1d129:2MULTIPLE MEASURE REST;2DOUBLE SHARP;3FLAT;2FLAT UP;3DOWN",
   "2NATURAL UP;3DOWN;2SHARP UP;3DOWN;2QUARTER TONE SHARP;4FLAT;2COMMON TIME;2CUT TIME",
   "2OTTAVA ALTA;3BASSA;2QUINDICESIMA ALTA;3BASSA;2MULTI REST;2WHOLE REST;2HALF REST;2QUARTER REST",
   "2EIGHTH REST;2SIXTEENTH REST;2THIRTY-SECOND REST;2SIXTY-FOURTH REST",
   "2ONE HUNDRED TWENTY-EIGHTH REST;2X NOTEHEAD;2PLUS NOTEHEAD;2CIRCLE X NOTEHEAD",
   "2SQUARE NOTEHEAD WHITE;4BLACK;2TRIANGLE NOTEHEAD UP WHITE;5BLACK;4LEFT WHITE;5BLACK",
   "4RIGHT WHITE;5BLACK;4DOWN WHITE;5BLACK;4UP RIGHT WHITE;6BLACK;2MOON NOTEHEAD WHITE;4BLACK",
   "2TRIANGLE-ROUND NOTEHEAD DOWN WHITE;6BLACK;2PARENTHESIS NOTEHEAD;2VOID NOTEHEAD",
   "2NOTEHEAD BLACK;2NULL NOTEHEAD;2CLUSTER NOTEHEAD WHITE;4BLACK;2BREVE;2WHOLE NOTE;2HALF NOTE",
   "2QUARTER NOTE;2EIGHTH NOTE;2SIXTEENTH NOTE;2THIRTY-SECOND NOTE;2SIXTY-FOURTH NOTE",
   "2ONE HUNDRED TWENTY-EIGHTH NOTE;2COMBINING STEM;3SPRECHGESANG STEM;3TREMOLO-1;42;43",
   "2FINGERED TREMOLO-1;42;43;2COMBINING AUGMENTATION DOT;3FLAG-1;42;43;44;45;2BEGIN BEAM",
   "2END BEAM;2BEGIN TIE;2END TIE;2BEGIN SLUR;2END SLUR;2BEGIN PHRASE;2END PHRASE",
   "2COMBINING ACCENT;3STACCATO;3TENUTO;3STACCATISSIMO;3MARCATO;3MARCATO-STACCATO;3ACCENT-STACCATO",
   "3LOURE;2ARPEGGIATO UP;3DOWN;2COMBINING DOIT;3RIP;3FLIP;3SMEAR;3BEND;3DOUBLE TONGUE",
   "3TRIPLE TONGUE;2RINFORZANDO;2SUBITO;2Z;2PIANO;2MEZZO;2FORTE;2CRESCENDO;2DECRESCENDO",
   "2GRACE NOTE SLASH;4NO SLASH;2TR;2TURN;2INVERTED TURN;2TURN SLASH;3UP;2ORNAMENT STROKE-1;42;43",
   "44;45;46;47;48;49;410;411;2HAUPTSTIMME;2NEBENSTIMME;2END OF STIMME;2DEGREE SLASH",
   "2COMBINING DOWN BOW;3UP BOW;3HARMONIC;3SNAP PIZZICATO;2PEDAL MARK;3UP MARK;2HALF PEDAL MARK",
   "2GLISSANDO UP;3DOWN;2WITH FINGERNAILS;2DAMP;2DAMP ALL;2MAXIMA;2LONGA;2BREVIS;2SEMIBREVIS WHITE",
   "3BLACK;2MINIMA;2MINIMA BLACK;2SEMIMINIMA WHITE;3BLACK;2FUSA WHITE;3BLACK;2LONGA PERFECTA REST",
   "3IMPERFECTA REST;2BREVIS REST;2SEMIBREVIS REST;2MINIMA REST;2SEMIMINIMA REST",
   "2TEMPUS PERFECTUM CUM PROLATIONE PERFECTA;6IMPERFECTA;6PERFECTA DIMINUTION-1",
   "3IMPERFECTUM CUM PROLATIONE PERFECTA;6IMPERFECTA;6IMPERFECTA DIMINUTION-1;82;83;2CROIX",
   "2GREGORIAN C CLEF;3F CLEF;2SQUARE B;2VIRGA;2PODATUS;2CLIVIS;2SCANDICUS;2CLIMACUS;2TORCULUS",
   "2PORRECTUS;2PORRECTUS FLEXUS;2SCANDICUS FLEXUS;2TORCULUS RESUPINUS;2PES SUBPUNCTIS",
   "2KIEVAN C CLEF;3END OF PIECE;3FINAL NOTE;3RECITATIVE MARK;3WHOLE NOTE;3HALF NOTE",
   "3QUARTER NOTE STEM DOWN;6UP;3EIGHTH NOTE STEM DOWN;6UP;3FLAT SIGN;2SORI;2KORON",
   "1d200:GREEK VOCAL NOTATION SYMBOL-1;42;43;44;45;46;47;48;49;410;411;412;413;414;415;416;417",
   "418;419;420;421;422;423;424;450;451;452;453;454;1INSTRUMENTAL NOTATION SYMBOL-1;42;44;45;47;48",
   "411;412;413;414;417;418;419;423;424;425;426;427;429;430;432;436;437;438;439;440;442;443;445",
   "447;448;449;450;451;452;453;454;COMBINING GREEK MUSICAL TRISEME;3TETRASEME;3PENTASEME",
   "GREEK MUSICAL LEIMMA;1d2e0:MAYAN NUMERAL ZERO;2ONE;2TWO;2THREE;2FOUR;2FIVE;2SIX;2SEVEN;2EIGHT",
   "2NINE;2TEN;2ELEVEN;2TWELVE;2THIRTEEN;2FOURTEEN;2FIFTEEN;2SIXTEEN;2SEVENTEEN;2EIGHTEEN",
   "2NINETEEN;1d300:MONOGRAM FOR EARTH;DIGRAM FOR HEAVENLY EARTH;2HUMAN EARTH;2EARTHLY HEAVEN"]

private def pictographNames2 : List String :=
  ["3HUMAN;2EARTH;TETRAGRAM FOR CENTRE;2FULL CIRCLE;2MIRED;2BARRIER;2KEEPING SMALL;2CONTRARIETY",
   "2ASCENT;2OPPOSITION;2BRANCHING OUT;2DEFECTIVENESS OR DISTORTION;2DIVERGENCE;2YOUTHFULNESS",
   "2INCREASE;2PENETRATION;2REACH;2CONTACT;2HOLDING BACK;2WAITING;2FOLLOWING;2ADVANCE;2RELEASE",
   "2RESISTANCE;2EASE;2JOY;2CONTENTION;2ENDEAVOUR;2DUTIES;2CHANGE;2DECISIVENESS;2BOLD RESOLUTION",
   "2PACKING;2LEGION;2CLOSENESS;2KINSHIP;2GATHERING;2STRENGTH;2PURITY;2FULLNESS;2RESIDENCE",
   "2LAW OR MODEL;2RESPONSE;2GOING TO MEET;2ENCOUNTERS;2STOVE;2GREATNESS;2ENLARGEMENT;2PATTERN",
   "2RITUAL;2FLIGHT;2VASTNESS OR WASTING;2CONSTANCY;2MEASURE;2ETERNITY;2UNITY;2DIMINISHMENT",
   "2CLOSED MOUTH;2GUARDEDNESS;2GATHERING IN;2MASSING;2ACCUMULATION;2EMBELLISHMENT;2DOUBT;2WATCH",
   "2SINKING;2INNER;2DEPARTURE;2DARKENING;2DIMMING;2EXHAUSTION;2SEVERANCE;2STOPPAGE;2HARDNESS",
   "2COMPLETION;2CLOSURE;2FAILURE;2AGGRAVATION;2COMPLIANCE;2ON THE VERGE;2DIFFICULTIES;2LABOURING",
   "2FOSTERING;1d360:COUNTING ROD UNIT DIGIT ONE;4TWO;4THREE;4FOUR;4FIVE;4SIX;4SEVEN;4EIGHT;4NINE",
   "2TENS DIGIT ONE;4TWO;4THREE;4FOUR;4FIVE;4SIX;4SEVEN;4EIGHT;4NINE;IDEOGRAPHIC TALLY MARK ONE",
   "3TWO;3THREE;3FOUR;3FIVE;TALLY MARK ONE;2FIVE;1d400:MATHEMATICAL BOLD CAPITAL A;3B;3C;3D;3E;3F",
   "3G;3H;3I;3J;3K;3L;3M;3N;3O;3P;3Q;3R;3S;3T;3U;3V;3W;3X;3Y;3Z;2SMALL A;3B;3C;3D;3E;3F;3G;3H;3I",
   "3J;3K;3L;3M;3N;3O;3P;3Q;3R;3S;3T;3U;3V;3W;3X;3Y;3Z;1ITALIC CAPITAL A;3B;3C;3D;3E;3F;3G;3H;3I",
   "3J;3K;3L;3M;3N;3O;3P;3Q;3R;3S;3T;3U;3V;3W;3X;3Y;3Z;2SMALL A;3B;3C;3D;3E;3F;3G;1d456:3I;3J;3K",
   "3L;3M;3N;3O;3P;3Q;3R;3S;3T;3U;3V;3W;3X;3Y;3Z;1BOLD ITALIC CAPITAL A;4B;4C;4D;4E;4F;4G;4H;4I;4J",
   "4K;4L;4M;4N;4O;4P;4Q;4R;4S;4T;4U;4V;4W;4X;4Y;4Z;3SMALL A;4B;4C;4D;4E;4F;4G;4H;4I;4J;4K;4L;4M",
   "4N;4O;4P;4Q;4R;4S;4T;4U;4V;4W;4X;4Y;4Z;1SCRIPT CAPITAL A;1d49e:3C;3D;1d4a2:3G;1d4a5:3J;3K",
   "1d4a9:3N;3O;3P;3Q;1d4ae:3S;3T;3U;3V;3W;3X;3Y;3Z;2SMALL A;3B;3C;3D;1d4bb:3F;1d4bd:3H;3I;3J;3K",
   "3L;3M;3N;1d4c5:3P;3Q;3R;3S;3T;3U;3V;3W;3X;3Y;3Z;1BOLD SCRIPT CAPITAL A;4B;4C;4D;4E;4F;4G;4H;4I",
   "4J;4K;4L;4M;4N;4O;4P;4Q;4R;4S;4T;4U;4V;4W;4X;4Y;4Z;3SMALL A;4B;4C;4D;4E;4F;4G;4H;4I;4J;4K;4L",
   "4M;4N;4O;4P;4Q;4R;4S;4T;4U;4V;4W;4X;4Y;4Z;1FRAKTUR CAPITAL A;3B;1d507:3D;3E;3F;3G;1d50d:3J;3K",
   "3L;3M;3N;3O;3P;3Q;1d516:3S;3T;3U;3V;3W;3X;3Y;1d51e:2SMALL A;3B;3C;3D;3E;3F;3G;3H;3I;3J;3K;3L",
   "3M;3N;3O;3P;3Q;3R;3S;3T;3U;3V;3W;3X;3Y;3Z;1DOUBLE-STRUCK CAPITAL A;4B;1d53b:4D;4E;4F;4G",
   "1d540:4I;4J;4K;4L;4M;1d546:4O;1d54a:4S;4T;4U;4V;4W;4X;4Y;1d552:3SMALL A;4B;4C;4D;4E;4F;4G;4H",
   "4I;4J;4K;4L;4M;4N;4O;4P;4Q;4R;4S;4T;4U;4V;4W;4X;4Y;4Z;1BOLD FRAKTUR CAPITAL A;4B;4C;4D;4E;4F",
   "4G;4H;4I;4J;4K;4L;4M;4N;4O;4P;4Q;4R;4S;4T;4U;4V;4W;4X;4Y;4Z;3SMALL A;4B;4C;4D;4E;4F;4G;4H;4I",
   "4J;4K;4L;4M;4N;4O;4P;4Q;4R;4S;4T;4U;4V;4W;4X;4Y;4Z;1SANS-SERIF CAPITAL A;4B;4C;4D;4E;4F;4G;4H",
   "4I;4J;4K;4L;4M;4N;4O;4P;4Q;4R;4S;4T;4U;4V;4W;4X;4Y;4Z;3SMALL A;4B;4C;4D;4E;4F;4G;4H;4I;4J;4K",
   "4L;4M;4N;4O;4P;4Q;4R;4S;4T;4U;4V;4W;4X;4Y;4Z;3BOLD CAPITAL A;5B;5C;5D;5E;5F;5G;5H;5I;5J;5K;5L",
   "5M;5N;5O;5P;5Q;5R;5S;5T;5U;5V;5W;5X;5Y;5Z;4SMALL A;5B;5C;5D;5E;5F;5G;5H;5I;5J;5K;5L;5M;5N;5O",
   "5P;5Q;5R;5S;5T;5U;5V;5W;5X;5Y;5Z;3ITALIC CAPITAL A;5B;5C;5D;5E;5F;5G;5H;5I;5J;5K;5L;5M;5N;5O",
   "5P;5Q;5R;5S;5T;5U;5V;5W;5X;5Y;5Z;4SMALL A;5B;5C;5D;5E;5F;5G;5H;5I;5J;5K;5L;5M;5N;5O;5P;5Q;5R",
   "5S;5T;5U;5V;5W;5X;5Y;5Z;3BOLD ITALIC CAPITAL A;6B;6C;6D;6E;6F;6G;6H;6I;6J;6K;6L;6M;6N;6O;6P;6Q",
   "6R;6S;6T;6U;6V;6W;6X;6Y;6Z;5SMALL A;6B;6C;6D;6E;6F;6G;6H;6I;6J;6K;6L;6M;6N;6O;6P;6Q;6R;6S;6T",
   "6U;6V;6W;6X;6Y;6Z;1MONOSPACE CAPITAL A;3B;3C;3D;3E;3F;3G;3H;3I;3J;3K;3L;3M;3N;3O;3P;3Q;3R;3S",
   "3T;3U;3V;3W;3X;3Y;3Z;2SMALL A;3B;3C;3D;3E;3F;3G;3H;3I;3J;3K;3L;3M;3N;3O;3P;3Q;3R;3S;3T;3U;3V",
   "3W;3X;3Y;3Z;1ITALIC SMALL DOTLESS I;4J;1d6a8:1BOLD CAPITAL ALPHA;3BETA;3GAMMA;3DELTA;3EPSILON",
   "3ZETA;3ETA;3THETA;3IOTA;3KAPPA;3LAMDA;3MU;3NU;3XI;3OMICRON;3PI;3RHO;3THETA SYMBOL;3SIGMA;3TAU",
   "3UPSILON;3PHI;3CHI;3PSI;3OMEGA;2NABLA;2SMALL ALPHA;3BETA;3GAMMA;3DELTA;3EPSILON;3ZETA;3ETA",
   "3THETA;3IOTA;3KAPPA;3LAMDA;3MU;3NU;3XI;3OMICRON;3PI;3RHO;3FINAL SIGMA;3SIGMA;3TAU;3UPSILON",
   "3PHI;3CHI;3PSI;3OMEGA;2PARTIAL DIFFERENTIAL;2EPSILON SYMBOL;2THETA SYMBOL;2KAPPA SYMBOL",
   "2PHI SYMBOL;2RHO SYMBOL;2PI SYMBOL;1ITALIC CAPITAL ALPHA;3BETA;3GAMMA;3DELTA;3EPSILON;3ZETA",
   "3ETA;3THETA;3IOTA;3KAPPA;3LAMDA;3MU;3NU;3XI;3OMICRON;3PI;3RHO;3THETA SYMBOL;3SIGMA;3TAU",
   "3UPSILON;3PHI;3CHI;3PSI;3OMEGA;2NABLA;2SMALL ALPHA;3BETA;3GAMMA;3DELTA;3EPSILON;3ZETA;3ETA",
   "3THETA;3IOTA;3KAPPA;3LAMDA;3MU;3NU;3XI;3OMICRON;3PI;3RHO;3FINAL SIGMA;3SIGMA;3TAU;3UPSILON",
   "3PHI;3CHI;3PSI;3OMEGA;2PARTIAL DIFFERENTIAL;2EPSILON SYMBOL;2THETA SYMBOL;2KAPPA SYMBOL",
   "2PHI SYMBOL;2RHO SYMBOL;2PI SYMBOL;1BOLD ITALIC CAPITAL ALPHA;4BETA;4GAMMA;4DELTA;4EPSILON",
   "4ZETA;4ETA;4THETA;4IOTA;4KAPPA;4LAMDA;4MU;4NU;4XI;4OMICRON;4PI;4RHO;4THETA SYMBOL;4SIGMA;4TAU",
   "4UPSILON;4PHI;4CHI;4PSI;4OMEGA;3NABLA;3SMALL ALPHA;4BETA;4GAMMA;4DELTA;4EPSILON;4ZETA;4ETA",
   "4THETA;4IOTA;4KAPPA;4LAMDA;4MU;4NU;4XI;4OMICRON;4PI;4RHO;4FINAL SIGMA;4SIGMA;4TAU;4UPSILON",
   "4PHI;4CHI;4PSI;4OMEGA;3PARTIAL DIFFERENTIAL;3EPSILON SYMBOL;3THETA SYMBOL;3KAPPA SYMBOL",
   "3PHI SYMBOL;3RHO SYMBOL;3PI SYMBOL;1SANS-SERIF BOLD CAPITAL ALPHA;5BETA;5GAMMA;5DELTA;5EPSILON",
   "5ZETA;5ETA;5THETA;5IOTA;5KAPPA;5LAMDA;5MU;5NU;5XI;5OMICRON;5PI;5RHO;5THETA SYMBOL;5SIGMA;5TAU",
   "5UPSILON;5PHI;5CHI;5PSI;5OMEGA;4NABLA;4SMALL ALPHA;5BETA;5GAMMA;5DELTA;5EPSILON;5ZETA;5ETA",
   "5THETA;5IOTA;5KAPPA;5LAMDA;5MU;5NU;5XI;5OMICRON;5PI;5RHO;5FINAL SIGMA;5SIGMA;5TAU;5UPSILON",
   "5PHI;5CHI;5PSI;5OMEGA;4PARTIAL DIFFERENTIAL;4EPSILON SYMBOL;4THETA SYMBOL;4KAPPA SYMBOL",
   "4PHI SYMBOL;4RHO SYMBOL;4PI SYMBOL;4ITALIC CAPITAL ALPHA;6BETA;6GAMMA;6DELTA;6EPSILON;6ZETA",
   "6ETA;6THETA;6IOTA;6KAPPA;6LAMDA;6MU;6NU;6XI;6OMICRON;6PI;6RHO;6THETA SYMBOL;6SIGMA;6TAU",
   "6UPSILON;6PHI;6CHI;6PSI;6OMEGA;5NABLA;5SMALL ALPHA;6BETA;6GAMMA;6DELTA;6EPSILON;6ZETA;6ETA",
   "6THETA;6IOTA;6KAPPA;6LAMDA;6MU;6NU;6XI;6OMICRON;6PI;6RHO;6FINAL SIGMA;6SIGMA;6TAU;6UPSILON",
   "6PHI;6CHI;6PSI;6OMEGA;5PARTIAL DIFFERENTIAL;5EPSILON SYMBOL;5THETA SYMBOL;5KAPPA SYMBOL",
   "5PHI SYMBOL;5RHO SYMBOL;5PI SYMBOL;1BOLD CAPITAL DIGAMMA;2SMALL DIGAMMA;1d7ce:2DIGIT ZERO;3ONE",
   "3TWO;3THREE;3FOUR;3FIVE;3SIX;3SEVEN;3EIGHT;3NINE;1DOUBLE-STRUCK DIGIT ZERO;4ONE;4TWO;4THREE",
   "4FOUR;4FIVE;4SIX;4SEVEN;4EIGHT;4NINE;1SANS-SERIF DIGIT ZERO;4ONE;4TWO;4THREE;4FOUR;4FIVE;4SIX",
   "4SEVEN;4EIGHT;4NINE;3BOLD DIGIT ZERO;5ONE;5TWO;5THREE;5FOUR;5FIVE;5SIX;5SEVEN;5EIGHT;5NINE",
   "1MONOSPACE DIGIT ZERO;3ONE;3TWO;3THREE;3FOUR;3FIVE;3SIX;3SEVEN;3EIGHT;3NINE",
   "SIGNWRITING HAND-FIST INDEX;2CIRCLE INDEX;2CUP INDEX;2OVAL INDEX;2HINGE INDEX;2ANGLE INDEX",
   "2FIST INDEX BENT;2CIRCLE INDEX BENT;2FIST THUMB UNDER INDEX BENT;3INDEX RAISED KNUCKLE;4CUPPED",
   "4HINGED;4HINGED LOW;2CIRCLE INDEX HINGE;2FIST INDEX MIDDLE;2CIRCLE INDEX MIDDLE",
   "2FIST INDEX MIDDLE BENT;5RAISED KNUCKLES;5HINGED;4UP MIDDLE HINGED;4HINGED MIDDLE UP",
   "4MIDDLE CONJOINED;5CONJOINED INDEX BENT;6MIDDLE BENT;6CUPPED;6HINGED;5CROSSED",
   "2CIRCLE INDEX MIDDLE CROSSED;2FIST MIDDLE BENT OVER INDEX;3INDEX BENT OVER MIDDLE",
   "4MIDDLE THUMB;2CIRCLE INDEX MIDDLE THUMB;2FIST INDEX MIDDLE STRAIGHT THUMB BENT",
   "5BENT THUMB STRAIGHT;5THUMB BENT;5HINGED SPREAD THUMB SIDE;4UP MIDDLE HINGED THUMB SIDE",
   "8CONJOINED;4HINGED MIDDLE UP THUMB SIDE;4MIDDLE UP SPREAD THUMB FORWARD;5THUMB CUPPED;6CIRCLED",
   "6HOOKED;6HINGED;3THUMB BETWEEN INDEX MIDDLE STRAIGHT;3INDEX MIDDLE CONJOINED THUMB SIDE",
   "7SIDE CONJOINED;8BENT;3MIDDLE THUMB HOOKED INDEX UP;3INDEX THUMB HOOKED MIDDLE UP",
   "4MIDDLE CONJOINED HINGED THUMB SIDE;5CROSSED THUMB SIDE;5CONJOINED THUMB FORWARD",
   "6CUPPED THUMB FORWARD;3MIDDLE THUMB CUPPED INDEX UP;3INDEX THUMB CUPPED MIDDLE UP",
   "3MIDDLE THUMB CIRCLED INDEX UP;7HINGED;3INDEX THUMB ANGLED OUT MIDDLE UP;6IN MIDDLE UP",
   "5CIRCLED MIDDLE UP;4MIDDLE THUMB CONJOINED HINGED;6ANGLED OUT;6ANGLED",
   "3MIDDLE THUMB ANGLED OUT INDEX UP;8CROSSED;6INDEX UP;3INDEX THUMB HOOKED MIDDLE HINGED",
   "2FLAT FOUR FINGERS;4FINGERS BENT;5HINGED;5CONJOINED;5CONJOINED SPLIT",
   "2CLAW FOUR FINGERS CONJOINED;2FIST FOUR FINGERS CONJOINED BENT;2HINGE FOUR FINGERS CONJOINED",
   "2FLAT FIVE FINGERS SPREAD;3HEEL FIVE FINGERS SPREAD;3FIVE FINGERS SPREAD FOUR BENT",
   "3HEEL FIVE FINGERS SPREAD FOUR BENT;3FIVE FINGERS SPREAD BENT;3HEEL FIVE FINGERS SPREAD BENT",
   "3FIVE FINGERS SPREAD THUMB FORWARD;2CUP FIVE FINGERS SPREAD;5SPREAD OPEN",
   "2HINGE FIVE FINGERS SPREAD OPEN;2OVAL FIVE FINGERS SPREAD;2FLAT FIVE FINGERS SPREAD HINGED",
   "6HINGED THUMB SIDE;7NO THUMB;2FLAT;2FLAT BETWEEN PALM FACINGS;3HEEL;3THUMB SIDE",
   "3HEEL THUMB SIDE;3THUMB BENT;4FORWARD;3SPLIT INDEX THUMB SIDE;4CENTRE;4CENTRE THUMB SIDE",
   "6SIDE BENT;4LITTLE;2CLAW;2CLAW THUMB SIDE;3NO THUMB;3THUMB FORWARD;2HOOK CURLICUE;2HOOK",
   "2CUP OPEN;2CUP;2CUP OPEN THUMB SIDE;3THUMB SIDE;3OPEN NO THUMB;3NO THUMB;3OPEN THUMB FORWARD",
   "3THUMB FORWARD;2CURLICUE OPEN;2CURLICUE;2CIRCLE;2OVAL;2OVAL THUMB SIDE;3NO THUMB",
   "3THUMB FORWARD;2HINGE OPEN;3OPEN THUMB FORWARD;2HINGE;2HINGE SMALL;3OPEN THUMB SIDE",
   "3THUMB SIDE;3OPEN NO THUMB;3NO THUMB;3THUMB SIDE TOUCHING INDEX;4BETWEEN MIDDLE RING;2ANGLE",
   "2FIST INDEX MIDDLE RING;2CIRCLE INDEX MIDDLE RING;2HINGE INDEX MIDDLE RING",
   "2ANGLE INDEX MIDDLE RING;2HINGE LITTLE;2FIST INDEX MIDDLE RING BENT;6CONJOINED",
   "2HINGE INDEX MIDDLE RING CONJOINED;2FIST LITTLE DOWN;4DOWN RIPPLE STRAIGHT;6CURVED",
   "5OTHERS CIRCLED;4UP;3THUMB UNDER LITTLE UP;2CIRCLE LITTLE UP;2OVAL LITTLE UP;2ANGLE LITTLE UP",
   "2FIST LITTLE RAISED KNUCKLE;4BENT;4TOUCHES THUMB;4THUMB;2HINGE LITTLE THUMB",
   "2FIST LITTLE INDEX THUMB;2HINGE LITTLE INDEX THUMB;2ANGLE LITTLE INDEX THUMB INDEX THUMB OUT",
   "7THUMB;2FIST LITTLE INDEX;2CIRCLE LITTLE INDEX;2HINGE LITTLE INDEX;2ANGLE LITTLE INDEX",
   "2FIST INDEX MIDDLE LITTLE;2CIRCLE INDEX MIDDLE LITTLE;2HINGE INDEX MIDDLE LITTLE;3RING",
   "2ANGLE INDEX MIDDLE LITTLE;2FIST INDEX MIDDLE CROSS LITTLE;2CIRCLE INDEX MIDDLE CROSS LITTLE",
   "2FIST RING DOWN;2HINGE RING DOWN INDEX THUMB HOOK MIDDLE",
   "2ANGLE RING DOWN MIDDLE THUMB INDEX CROSS;2FIST RING UP;4RAISED KNUCKLE;4LITTLE",
   "2CIRCLE RING LITTLE;2OVAL RING LITTLE;2ANGLE RING LITTLE;2FIST RING MIDDLE;4MIDDLE CONJOINED",
   "5RAISED KNUCKLES;4INDEX;4THUMB;2HOOK RING THUMB;2FIST INDEX RING LITTLE",
   "2CIRCLE INDEX RING LITTLE;2CURLICUE INDEX RING LITTLE ON;2HOOK INDEX RING LITTLE OUT;6IN",
   "6UNDER;2CUP INDEX RING LITTLE;2HINGE INDEX RING LITTLE;2ANGLE INDEX RING LITTLE OUT;5LITTLE",
   "2FIST MIDDLE DOWN;2HINGE MIDDLE;2FIST MIDDLE UP;2CIRCLE MIDDLE UP;2FIST MIDDLE RAISED KNUCKLE",
   "4UP THUMB SIDE;2HOOK MIDDLE THUMB;2FIST MIDDLE THUMB LITTLE;4LITTLE;4RING LITTLE",
   "2CIRCLE MIDDLE RING LITTLE;2CURLICUE MIDDLE RING LITTLE ON;2CUP MIDDLE RING LITTLE",
   "2HINGE MIDDLE RING LITTLE;2ANGLE MIDDLE RING LITTLE OUT;6IN;5LITTLE"]

private def pictographNames3 : List String :=
  ["2CIRCLE MIDDLE RING LITTLE BENT;2CLAW MIDDLE RING LITTLE CONJOINED;6CONJOINED SIDE",
   "2HOOK MIDDLE RING LITTLE CONJOINED OUT;7IN;6CONJOINED;2HINGE INDEX HINGED",
   "2FIST INDEX THUMB SIDE;2HINGE INDEX THUMB SIDE;2FIST INDEX THUMB SIDE THUMB DIAGONAL",
   "7CONJOINED;7BENT;6INDEX BENT;6BOTH BENT;6INDEX HINGE;5FORWARD INDEX STRAIGHT;7BENT;5HOOK",
   "5CURLICUE;5CURVE THUMB INSIDE;2CLAW INDEX THUMB CURVE THUMB INSIDE",
   "2FIST INDEX THUMB CURVE THUMB UNDER;5CIRCLE;2CUP INDEX THUMB;4THUMB OPEN",
   "2HINGE INDEX THUMB OPEN;5LARGE;4THUMB;4THUMB SMALL;2ANGLE INDEX THUMB OUT;5IN;4THUMB",
   "2FIST THUMB;3THUMB HEEL;4SIDE DIAGONAL;5CONJOINED;5BENT;4FORWARD;4BETWEEN INDEX MIDDLE",
   "5MIDDLE RING;5RING LITTLE;4UNDER TWO FINGERS;4OVER TWO FINGERS;4UNDER THREE FINGERS",
   "5FOUR FINGERS;4OVER FOUR RAISED KNUCKLES;2FIST;2FIST HEEL;1TOUCH SINGLE;2MULTIPLE;2BETWEEN",
   "1GRASP SINGLE;2MULTIPLE;2BETWEEN;1STRIKE SINGLE;2MULTIPLE;2BETWEEN;1BRUSH SINGLE;2MULTIPLE",
   "2BETWEEN;1RUB SINGLE;2MULTIPLE;2BETWEEN;1SURFACE SYMBOLS;2BETWEEN;1SQUEEZE LARGE SINGLE",
   "2SMALL SINGLE;2LARGE MULTIPLE;2SMALL MULTIPLE;2SEQUENTIAL;1FLICK LARGE SINGLE;2SMALL SINGLE",
   "2LARGE MULTIPLE;2SMALL MULTIPLE;2SEQUENTIAL;1SQUEEZE FLICK ALTERNATING",
   "1MOVEMENT-HINGE UP DOWN LARGE;5SMALL;4SEQUENTIAL;3DOWN SEQUENTIAL;3UP DOWN ALTERNATING LARGE",
   "6SMALL;3SIDE TO SIDE SCISSORS;2WALLPLANE FINGER CONTACT;2FLOORPLANE FINGER CONTACT",
   "2WALLPLANE SINGLE STRAIGHT SMALL;5MEDIUM;5LARGE;5LARGEST;4WRIST FLEX;3DOUBLE STRAIGHT",
   "4WRIST FLEX;4ALTERNATING;4ALTERNATING WRIST FLEX;3CROSS;3TRIPLE STRAIGHT MOVEMENT;4WRIST FLEX",
   "4ALTERNATING;4ALTERNATING WRIST FLEX;3BEND SMALL;4MEDIUM;4LARGE;3CORNER SMALL;4MEDIUM;4LARGE",
   "4ROTATION;3CHECK SMALL;4MEDIUM;4LARGE;3BOX SMALL;4MEDIUM;4LARGE;3ZIGZAG SMALL;4MEDIUM;4LARGE",
   "3PEAKS SMALL;4MEDIUM;4LARGE;1TRAVEL-WALLPLANE ROTATION-WALLPLANE SINGLE;5DOUBLE;5ALTERNATING",
   "4FLOORPLANE SINGLE;5DOUBLE;5ALTERNATING;3SHAKING;3ARM SPIRAL SINGLE;5DOUBLE;5TRIPLE",
   "1MOVEMENT-DIAGONAL AWAY SMALL;4MEDIUM;4LARGE;4LARGEST;3TOWARDS SMALL;4MEDIUM;4LARGE;4LARGEST",
   "3BETWEEN AWAY SMALL;5MEDIUM;5LARGE;5LARGEST;4TOWARDS SMALL;5MEDIUM;5LARGE;5LARGEST",
   "2FLOORPLANE SINGLE STRAIGHT SMALL;5MEDIUM;5LARGE;5LARGEST;4WRIST FLEX;3DOUBLE STRAIGHT",
   "4WRIST FLEX;4ALTERNATING;4ALTERNATING WRIST FLEX;3CROSS;3TRIPLE STRAIGHT MOVEMENT;4WRIST FLEX",
   "4ALTERNATING MOVEMENT;5WRIST FLEX;3BEND;3CORNER SMALL;4MEDIUM;4LARGE;3CHECK;3BOX SMALL;4MEDIUM",
   "4LARGE;3ZIGZAG SMALL;4MEDIUM;4LARGE;3PEAKS SMALL;4MEDIUM;4LARGE",
   "1TRAVEL-FLOORPLANE ROTATION-FLOORPLANE SINGLE;5DOUBLE;5ALTERNATING;4WALLPLANE SINGLE;5DOUBLE",
   "5ALTERNATING;3SHAKING;1MOVEMENT-WALLPLANE CURVE QUARTER SMALL;5MEDIUM;5LARGE;5LARGEST",
   "4HALF-CIRCLE SMALL;6MEDIUM;6LARGE;6LARGEST;4THREE-QUARTER CIRCLE SMALL;7MEDIUM;3HUMP SMALL",
   "4MEDIUM;4LARGE;3LOOP SMALL;4MEDIUM;4LARGE;4SMALL DOUBLE;3WAVE CURVE DOUBLE SMALL;6MEDIUM",
   "6LARGE;5TRIPLE SMALL;6MEDIUM;6LARGE;3CURVE THEN STRAIGHT;3CURVED CROSS SMALL;5MEDIUM",
   "1ROTATION-WALLPLANE SINGLE;3DOUBLE;3ALTERNATE;1MOVEMENT-WALLPLANE SHAKING",
   "3CURVE HITTING FRONT WALL;3HUMP HITTING FRONT WALL;3LOOP HITTING FRONT WALL",
   "3WAVE HITTING FRONT WALL;1ROTATION-WALLPLANE SINGLE HITTING FRONT WALL",
   "3DOUBLE HITTING FRONT WALL;3ALTERNATING HITTING FRONT WALL",
   "1MOVEMENT-WALLPLANE CURVE HITTING CHEST;3HUMP HITTING CHEST;3LOOP HITTING CHEST",
   "3WAVE HITTING CHEST;1ROTATION-WALLPLANE SINGLE HITTING CHEST;3DOUBLE HITTING CHEST",
   "3ALTERNATING HITTING CHEST;1MOVEMENT-WALLPLANE WAVE DIAGONAL PATH SMALL;6MEDIUM;6LARGE",
   "2FLOORPLANE CURVE HITTING CEILING SMALL;6LARGE;3HUMP HITTING CEILING SMALL DOUBLE",
   "6LARGE DOUBLE;6SMALL TRIPLE;6LARGE TRIPLE;3LOOP HITTING CEILING SMALL SINGLE;6LARGE SINGLE",
   "6SMALL DOUBLE;6LARGE DOUBLE;3WAVE HITTING CEILING SMALL;6LARGE",
   "1ROTATION-FLOORPLANE SINGLE HITTING CEILING;3DOUBLE HITTING CEILING",
   "3ALTERNATING HITTING CEILING;1MOVEMENT-FLOORPLANE CURVE HITTING FLOOR SMALL;6LARGE",
   "3HUMP HITTING FLOOR SMALL DOUBLE;6LARGE DOUBLE;6TRIPLE SMALL TRIPLE;7LARGE TRIPLE",
   "3LOOP HITTING FLOOR SMALL SINGLE;6LARGE SINGLE;6SMALL DOUBLE;6LARGE DOUBLE",
   "3WAVE HITTING FLOOR SMALL;6LARGE;1ROTATION-FLOORPLANE SINGLE HITTING FLOOR",
   "3DOUBLE HITTING FLOOR;3ALTERNATING HITTING FLOOR;1MOVEMENT-FLOORPLANE CURVE SMALL;4MEDIUM",
   "4LARGE;4LARGEST;4COMBINED;3HUMP SMALL;3LOOP SMALL;3WAVE SNAKE;4SMALL;4LARGE",
   "1ROTATION-FLOORPLANE SINGLE;3DOUBLE;3ALTERNATING;1MOVEMENT-FLOORPLANE SHAKING PARALLEL",
   "2WALLPLANE ARM CIRCLE SMALL SINGLE;5MEDIUM SINGLE;5SMALL DOUBLE;5MEDIUM DOUBLE",
   "2FLOORPLANE ARM CIRCLE HITTING WALL SMALL SINGLE;7MEDIUM SINGLE;7LARGE SINGLE;7SMALL DOUBLE",
   "7MEDIUM DOUBLE;7LARGE DOUBLE;2WALLPLANE WRIST CIRCLE FRONT SINGLE;6DOUBLE",
   "2FLOORPLANE WRIST CIRCLE HITTING WALL SINGLE;7DOUBLE;2WALLPLANE FINGER CIRCLES SINGLE;5DOUBLE",
   "2FLOORPLANE FINGER CIRCLES HITTING WALL SINGLE;7DOUBLE;1DYNAMIC ARROWHEAD SMALL;3LARGE;2FAST",
   "2SLOW;2TENSE;2RELAXED;2SIMULTANEOUS;2SIMULTANEOUS ALTERNATING;2EVERY OTHER TIME;2GRADUAL;1HEAD",
   "1HEAD RIM;2MOVEMENT-WALLPLANE STRAIGHT;4TILT;3FLOORPLANE STRAIGHT;3WALLPLANE CURVE",
   "3FLOORPLANE CURVE;2MOVEMENT CIRCLE;1FACE DIRECTION POSITION NOSE FORWARD TILTING;5UP OR DOWN",
   "7DOWN TILTING;1EYEBROWS STRAIGHT UP;3NEUTRAL;3DOWN;1DREAMY EYEBROWS NEUTRAL DOWN;3DOWN NEUTRAL",
   "3UP NEUTRAL;3NEUTRAL UP;1FOREHEAD NEUTRAL;2CONTACT;2WRINKLED;1EYES OPEN;2SQUEEZED;2CLOSED",
   "1EYE BLINK SINGLE;3MULTIPLE;1EYES HALF OPEN;2WIDE OPEN;2HALF CLOSED;2WIDENING MOVEMENT",
   "1EYE WINK;1EYELASHES UP;2DOWN;2FLUTTERING;1EYEGAZE-WALLPLANE STRAIGHT;3STRAIGHT DOUBLE",
   "4ALTERNATING;2FLOORPLANE STRAIGHT;3STRAIGHT DOUBLE;4ALTERNATING;2WALLPLANE CURVED",
   "2FLOORPLANE CURVED;2WALLPLANE CIRCLING;1CHEEKS PUFFED;2NEUTRAL;2SUCKED;1TENSE CHEEKS HIGH",
   "3MIDDLE;3LOW;1EARS;1NOSE NEUTRAL;2CONTACT;2WRINKLES;2WIGGLES;1AIR BLOWING OUT;2SUCKING IN",
   "2BLOW SMALL ROTATIONS;2SUCK SMALL ROTATIONS;1BREATH INHALE;2EXHALE;1MOUTH CLOSED NEUTRAL",
   "3FORWARD;3CONTACT;2SMILE;2SMILE WRINKLED;3OPEN;2FROWN;2FROWN WRINKLED;3OPEN;2OPEN CIRCLE",
   "3FORWARD;3WRINKLED;3OVAL;3OVAL WRINKLED;4YAWN;3RECTANGLE;3RECTANGLE WRINKLED;4YAWN;2KISS",
   "2KISS FORWARD;3WRINKLED;2TENSE;2TENSE FORWARD;3SUCKED;1LIPS PRESSED TOGETHER",
   "1LIP LOWER OVER UPPER;2UPPER OVER LOWER;1MOUTH CORNERS;2WRINKLES SINGLE;3DOUBLE",
   "1TONGUE STICKING OUT FAR;2LICKING LIPS;2TIP BETWEEN LIPS;3TOUCHING INSIDE MOUTH",
   "2INSIDE MOUTH RELAXED;2MOVES AGAINST CHEEK;2CENTRE STICKING OUT;3INSIDE MOUTH;1TEETH",
   "1TEETH MOVEMENT;2ON TONGUE;3TONGUE MOVEMENT;3LIPS;3LIPS MOVEMENT;2BITE LIPS",
   "1MOVEMENT-WALLPLANE JAW;2FLOORPLANE JAW;1NECK;1HAIR;1EXCITEMENT;1SHOULDER HIP SPINE;3POSITIONS",
   "1WALLPLANE SHOULDER HIP MOVE;1FLOORPLANE SHOULDER HIP MOVE;1SHOULDER TILTING FROM WAIST",
   "1TORSO-WALLPLANE STRAIGHT STRETCH;3CURVED BEND;2FLOORPLANE TWISTING",
   "1UPPER BODY TILTING FROM HIP JOINTS;1LIMB COMBINATION;2LENGTH-1;32;33;34;35;36;37;1FINGER",
   "1LOCATION-WALLPLANE SPACE;2FLOORPLANE SPACE;1LOCATION HEIGHT;2WIDTH;2DEPTH;2HEAD NECK;2TORSO",
   "2LIMBS DIGITS;1COMMA;1FULL STOP;1SEMICOLON;1COLON;1PARENTHESIS;1da9b:1FILL MODIFIER-2;33;34;35",
   "36;1daa1:1ROTATION MODIFIER-2;33;34;35;36;37;38;39;310;311;312;313;314;315;316",
   "1df00:LATIN SMALL LETTER FENG DIGRAPH WITH TRILL;3REVERSED SCRIPT G",
   "1LETTER SMALL CAPITAL TURNED G;1SMALL LETTER REVERSED K;1LETTER SMALL CAPITAL L WITH BELT",
   "1SMALL LETTER LEZH WITH RETROFLEX HOOK;3TURNED Y WITH BELT;3REVERSED ENG",
   "3TURNED R WITH LONG LEG AND RETROFLEX HOOK;3T WITH HOOK AND RETROFLEX HOOK",
   "1LETTER RETROFLEX CLICK WITH RETROFLEX HOOK;1SMALL LETTER ESH WITH DOUBLE BAR;6BAR AND CURL",
   "3TURNED T WITH CURL;1LETTER INVERTED GLOTTAL STOP WITH CURL;2STRETCHED C WITH CURL",
   "2SMALL CAPITAL TURNED K;1SMALL LETTER L WITH FISHHOOK;3DEZH DIGRAPH WITH PALATAL HOOK",
   "3L WITH BELT AND PALATAL HOOK;3ENG WITH PALATAL HOOK;3TURNED R WITH PALATAL HOOK",
   "3R WITH FISHHOOK AND PALATAL HOOK;3TESH DIGRAPH WITH PALATAL HOOK;3EZH WITH PALATAL HOOK",
   "3DEZH DIGRAPH WITH RETROFLEX HOOK;3I WITH STROKE AND RETROFLEX HOOK;3O WITH RETROFLEX HOOK",
   "3TESH DIGRAPH WITH RETROFLEX HOOK;3C WITH RETROFLEX HOOK;3S WITH CURL",
   "1e000:COMBINING GLAGOLITIC LETTER AZU;3BUKY;3VEDE;3GLAGOLI;3DOBRO;3YESTU;3ZHIVETE",
   "1e008:3ZEMLJA;3IZHE;3INITIAL IZHE;3I;3DJERVI;3KAKO;3LJUDIJE;3MYSLITE;3NASHI;3ONU;3POKOJI",
   "3RITSI;3SLOVO;3TVRIDO;3UKU;3FRITU;3HERU;1e01b:3SHTA;3TSI;3CHRIVI;3SHA;3YERU;3YERI;3YATI",
   "1e023:3YU;3SMALL YUS;1e026:3YO;3IOTATED SMALL YUS;3BIG YUS;3IOTATED BIG YUS;3FITA",
   "1e100:NYIAKENG PUACHUE HMONG LETTER MA;4TSA;4NTA;4TA;4HA;4NA;4XA;4NKA;4CA;4LA;4SA;4ZA;4NCA",
   "4NTSA;4KA;4DA;4NYA;4NRA;4VA;4NTXA;4TXA;4FA;4RA;4QA;4YA;4NQA;4PA;4XYA;4NPA;4DLA;4NPLA;4HAH;4MLA",
   "4PLA;4GA;4RRA;4A;4AA;4I;4U;4O;4OO;4E;4EE;4W;1e130:3TONE-B;4M;4J;4V;4S;4G;4D;3SIGN FOR PERSON",
   "5THING;5LOCATION;5ANIMAL;5INVERTEBRATE;4XW XW;3SYLLABLE LENGTHENER;1e140:3DIGIT ZERO;4ONE;4TWO",
   "4THREE;4FOUR;4FIVE;4SIX;4SEVEN;4EIGHT;4NINE;1e14e:3LOGOGRAM NYAJ;3CIRCLED CA",
   "1e290:TOTO LETTER PA;2BA;2TA;2DA;2KA;2GA;2MA;2NA;2NGA;2SA;2CHA;2YA;2WA;2JA;2HA;2RA;2LA;2I",
   "2BREATHY I;2IU;2BREATHY IU;2U;2E;2BREATHY E;2EO;2BREATHY EO;2O;2AE;2BREATHY AE;2A",
   "1SIGN RISING TONE;1e2c0:WANCHO LETTER AA;2A;2BA;2CA;2DA;2GA;2YA;2PHA;2LA;2NA;2PA;2TA;2THA;2FA",
   "2SA;2SHA;2JA;2ZA;2WA;2VA;2KA;2O;2AU;2RA;2MA;2KHA;2HA;2E;2I;2NGA;2U;2LLHA;2TSA;2TRA;2ONG;2AANG",
   "2ANG;2ING;2ON;2EN;2AAN;2NYA;2UEN;2YIH;1TONE TUP;2TUPNI;2KOI;2KOINI;1DIGIT ZERO;2ONE;2TWO",
   "2THREE;2FOUR;2FIVE;2SIX;2SEVEN;2EIGHT;2NINE;1e2ff:1NGUN SIGN;1e7e0:ETHIOPIC SYLLABLE HHYA",
   "2HHYU;2HHYI;2HHYAA;2HHYEE;2HHYE;2HHYO;1e7e8:2GURAGE HHWA;2HHWI;2HHWEE;2HHWE;1e7ed:2GURAGE MWI",
   "3MWEE;1e7f0:3QWI;3QWEE;3QWE;3BWI;3BWEE;3KWI;3KWEE;3KWE;3GWI;3GWEE;3GWE;3FWI;3FWEE;3PWI;3PWEE",
   "1e800:MENDE KIKAKUI SYLLABLE M001 KI;3M002 KA;3M003 KU;3M065 KEE;3M095 KE;3M076 KOO;3M048 KO",
   "3M179 KUA;3M004 WI;3M005 WA;3M006 WU;3M126 WEE;3M118 WE;3M114 WOO;3M045 WO;3M194 WUI;3M143 WEI",
   "3M061 WVI;3M049 WVA;3M139 WVE;3M007 MIN;3M008 MAN;3M009 MUN;3M059 MEN;3M094 MON;3M154 MUAN",
   "3M189 MUEN;3M010 BI;3M011 BA;3M012 BU;3M150 BEE;3M097 BE;3M103 BOO;3M138 BO;3M013 I;3M014 A",
   "3M015 U;3M163 EE;3M100 E;3M165 OO;3M147 O;3M137 EI;3M131 IN;3M135 IN;3M195 AN;3M178 EN",
   "3M019 SI;3M020 SA;3M021 SU;3M162 SEE;3M116 SE;3M136 SOO;3M079 SO;3M196 SIA;3M025 LI;3M026 LA",
   "3M027 LU;3M084 LEE;3M073 LE;3M054 LOO;3M153 LO;3M110 LONG LE;3M016 DI;3M017 DA;3M018 DU"]

private def pictographNames4 : List String :=
  ["3M089 DEE;3M180 DOO;3M181 DO;3M022 TI;3M023 TA;3M024 TU;3M091 TEE;3M055 TE;3M104 TOO;3M069 TO",
   "3M028 JI;3M029 JA;3M030 JU;3M157 JEE;3M113 JE;3M160 JOO;3M063 JO;3M175 LONG JO;3M031 YI",
   "3M032 YA;3M033 YU;3M109 YEE;3M080 YE;3M141 YOO;3M121 YO;3M034 FI;3M035 FA;3M036 FU;3M078 FEE",
   "3M075 FE;3M133 FOO;3M088 FO;3M197 FUA;3M101 FAN;3M037 NIN;3M038 NAN;3M039 NUN;3M117 NEN",
   "3M169 NON;3M176 HI;3M041 HA;3M186 HU;3M040 HEE;3M096 HE;3M042 HOO;3M140 HO;3M083 HEEI",
   "3M128 HOOU;3M053 HIN;3M130 HAN;3M087 HUN;3M052 HEN;3M193 HON;3M046 HUAN;3M090 NGGI;3M043 NGGA",
   "3M082 NGGU;3M115 NGGEE;3M146 NGGE;3M156 NGGOO;3M120 NGGO;3M159 NGGAA;3M127 NGGUA",
   "3M086 LONG NGGE;3M106 LONG NGGOO;3M183 LONG NGGO;3M155 GI;3M111 GA;3M168 GU;3M190 GEE",
   "3M166 GUEI;3M167 GUAN;3M184 NGEN;3M057 NGON;3M177 NGUAN;3M068 PI;3M099 PA;3M050 PU;3M081 PEE",
   "3M051 PE;3M102 POO;3M066 PO;3M145 MBI;3M062 MBA;3M122 MBU;3M047 MBEE;3M188 MBEE;3M072 MBE",
   "3M172 MBOO;3M174 MBO;3M187 MBUU;3M161 LONG MBE;3M105 LONG MBOO;3M142 LONG MBO;3M132 KPI",
   "3M092 KPA;3M074 KPU;3M044 KPEE;3M108 KPE;3M112 KPOO;3M158 KPO;3M124 GBI;3M056 GBA;3M148 GBU",
   "3M093 GBEE;3M107 GBE;3M071 GBOO;3M070 GBO;3M171 RA;3M123 NDI;3M129 NDA;3M125 NDU;3M191 NDEE",
   "3M119 NDE;3M067 NDOO;3M064 NDO;3M152 NJA;3M192 NJU;3M149 NJEE;3M134 NJOO;3M182 VI;3M185 VA",
   "3M151 VU;3M173 VEE;3M085 VE;3M144 VOO;3M077 VO;3M164 NYIN;3M058 NYAN;3M170 NYUN;3M098 NYEN",
   "3M060 NYON;1e8c7:2DIGIT ONE;3TWO;3THREE;3FOUR;3FIVE;3SIX;3SEVEN;3EIGHT;3NINE",
   "2COMBINING NUMBER TEENS;4TENS;4HUNDREDS;4THOUSANDS;4TEN THOUSANDS;4HUNDRED THOUSANDS;4MILLIONS",
   "1e900:ADLAM CAPITAL LETTER ALIF;3DAALI;3LAAM;3MIIM;3BA;3SINNYIIYHE;3PE;3BHE;3RA;3E;3FA;3I;3O",
   "3DHA;3YHE;3WAW;3NUN;3KAF;3YA;3U;3JIIM;3CHI;3HA;3QAAF;3GA;3NYA;3TU;3NHA;3VA;3KHA;3GBE;3ZAL;3KPO",
   "3SHA;1SMALL LETTER ALIF;3DAALI;3LAAM;3MIIM;3BA;3SINNYIIYHE;3PE;3BHE;3RA;3E;3FA;3I;3O;3DHA;3YHE",
   "3WAW;3NUN;3KAF;3YA;3U;3JIIM;3CHI;3HA;3QAAF;3GA;3NYA;3TU;3NHA;3VA;3KHA;3GBE;3ZAL;3KPO;3SHA",
   "1ALIF LENGTHENER;1VOWEL LENGTHENER;1GEMINATION MARK;1HAMZA;1CONSONANT MODIFIER",
   "1GEMINATE CONSONANT MODIFIER;1NUKTA;1NASALIZATION MARK;1e950:1DIGIT ZERO;2ONE;2TWO;2THREE",
   "2FOUR;2FIVE;2SIX;2SEVEN;2EIGHT;2NINE;1e95e:1INITIAL EXCLAMATION MARK;2QUESTION MARK",
   "1ec71:INDIC SIYAQ NUMBER ONE;3TWO;3THREE;3FOUR;3FIVE;3SIX;3SEVEN;3EIGHT;3NINE;3TEN;3TWENTY",
   "3THIRTY;3FORTY;3FIFTY;3SIXTY;3SEVENTY;3EIGHTY;3NINETY;3ONE HUNDRED;3TWO HUNDRED;3THREE HUNDRED",
   "3FOUR HUNDRED;3FIVE HUNDRED;3SIX HUNDRED;3SEVEN HUNDRED;3EIGHT HUNDRED;3NINE HUNDRED",
   "3ONE THOUSAND;3TWO THOUSAND;3THREE THOUSAND;3FOUR THOUSAND;3FIVE THOUSAND;3SIX THOUSAND",
   "3SEVEN THOUSAND;3EIGHT THOUSAND;3NINE THOUSAND;3TEN THOUSAND;3TWENTY THOUSAND;3THIRTY THOUSAND",
   "3FORTY THOUSAND;3FIFTY THOUSAND;3SIXTY THOUSAND;3SEVENTY THOUSAND;3EIGHTY THOUSAND",
   "3NINETY THOUSAND;3LAKH;3LAKHAN;2LAKH MARK;2NUMBER KAROR;3KARORAN;3PREFIXED ONE;4TWO;4THREE",
   "4FOUR;4FIVE;4SIX;4SEVEN;4EIGHT;4NINE;2PLACEHOLDER;2FRACTION ONE QUARTER;4HALF;3THREE QUARTERS",
   "2RUPEE MARK;2NUMBER ALTERNATE ONE;4TWO;4TEN THOUSAND;2ALTERNATE LAKH MARK",
   "1ed01:OTTOMAN SIYAQ NUMBER ONE;3TWO;3THREE;3FOUR;3FIVE;3SIX;3SEVEN;3EIGHT;3NINE;3TEN;3TWENTY",
   "3THIRTY;3FORTY;3FIFTY;3SIXTY;3SEVENTY;3EIGHTY;3NINETY;3ONE HUNDRED;3TWO HUNDRED;3THREE HUNDRED",
   "3FOUR HUNDRED;3FIVE HUNDRED;3SIX HUNDRED;3SEVEN HUNDRED;3EIGHT HUNDRED;3NINE HUNDRED",
   "3ONE THOUSAND;3TWO THOUSAND;3THREE THOUSAND;3FOUR THOUSAND;3FIVE THOUSAND;3SIX THOUSAND",
   "3SEVEN THOUSAND;3EIGHT THOUSAND;3NINE THOUSAND;3TEN THOUSAND;3TWENTY THOUSAND;3THIRTY THOUSAND",
   "3FORTY THOUSAND;3FIFTY THOUSAND;3SIXTY THOUSAND;3SEVENTY THOUSAND;3EIGHTY THOUSAND",
   "3NINETY THOUSAND;2MARRATAN;2ALTERNATE NUMBER TWO;4THREE;4FOUR;4FIVE;4SIX;4SEVEN;4EIGHT;4NINE",
   "4TEN;4FOUR HUNDRED;4SIX HUNDRED;4TWO THOUSAND;4TEN THOUSAND;2FRACTION ONE HALF;4SIXTH",
   "1ee00:ARABIC MATHEMATICAL ALEF;2BEH;2JEEM;2DAL;1ee05:2WAW;2ZAIN;2HAH;2TAH;2YEH;2KAF;2LAM;2MEEM",
   "2NOON;2SEEN;2AIN;2FEH;2SAD;2QAF;2REH;2SHEEN;2TEH;2THEH;2KHAH;2THAL;2DAD;2ZAH;2GHAIN",
   "2DOTLESS BEH;3NOON;3FEH;3QAF;1ee21:2INITIAL BEH;3JEEM;1ee24:3HEH;1ee27:3HAH;1ee29:3YEH;3KAF",
   "3LAM;3MEEM;3NOON;3SEEN;3AIN;3FEH;3SAD;3QAF;1ee34:3SHEEN;3TEH;3THEH;3KHAH;1ee39:3DAD",
   "1ee3b:3GHAIN;1ee42:2TAILED JEEM;1ee47:3HAH;1ee49:3YEH;1ee4b:3LAM;1ee4d:3NOON;3SEEN;3AIN",
   "1ee51:3SAD;3QAF;1ee54:3SHEEN;1ee57:3KHAH;1ee59:3DAD;1ee5b:3GHAIN;1ee5d:3DOTLESS NOON",
   "1ee5f:4QAF;1ee61:2STRETCHED BEH;3JEEM;1ee64:3HEH;1ee67:3HAH;3TAH;3YEH;3KAF;1ee6c:3MEEM;3NOON",
   "3SEEN;3AIN;3FEH;3SAD;3QAF;1ee74:3SHEEN;3TEH;3THEH;3KHAH;1ee79:3DAD;3ZAH;3GHAIN;3DOTLESS BEH",
   "1ee7e:4FEH;1ee80:2LOOPED ALEF;3BEH;3JEEM;3DAL;3HEH;3WAW;3ZAIN;3HAH;3TAH;3YEH;1ee8b:3LAM;3MEEM",
   "3NOON;3SEEN;3AIN;3FEH;3SAD;3QAF;3REH;3SHEEN;3TEH;3THEH;3KHAH;3THAL;3DAD;3ZAH;3GHAIN",
   "1eea1:2DOUBLE-STRUCK BEH;4JEEM;4DAL;1eea5:4WAW;4ZAIN;4HAH;4TAH;4YEH;1eeab:4LAM;4MEEM;4NOON",
   "4SEEN;4AIN;4FEH;4SAD;4QAF;4REH;4SHEEN;4TEH;4THEH;4KHAH;4THAL;4DAD;4ZAH;4GHAIN",
   "1eef0:2OPERATOR MEEM WITH HAH WITH TATWEEL;3HAH WITH DAL;1f000:MAHJONG TILE EAST WIND",
   "2SOUTH WIND;2WEST WIND;2NORTH WIND;2RED DRAGON;2GREEN DRAGON;2WHITE DRAGON;2ONE OF CHARACTERS",
   "2TWO OF CHARACTERS;2THREE OF CHARACTERS;2FOUR OF CHARACTERS;2FIVE OF CHARACTERS",
   "2SIX OF CHARACTERS;2SEVEN OF CHARACTERS;2EIGHT OF CHARACTERS;2NINE OF CHARACTERS",
   "2ONE OF BAMBOOS;2TWO OF BAMBOOS;2THREE OF BAMBOOS;2FOUR OF BAMBOOS;2FIVE OF BAMBOOS",
   "2SIX OF BAMBOOS;2SEVEN OF BAMBOOS;2EIGHT OF BAMBOOS;2NINE OF BAMBOOS;2ONE OF CIRCLES",
   "2TWO OF CIRCLES;2THREE OF CIRCLES;2FOUR OF CIRCLES;2FIVE OF CIRCLES;2SIX OF CIRCLES",
   "2SEVEN OF CIRCLES;2EIGHT OF CIRCLES;2NINE OF CIRCLES;2PLUM;2ORCHID;2BAMBOO;2CHRYSANTHEMUM",
   "2SPRING;2SUMMER;2AUTUMN;2WINTER;2JOKER;2BACK;1f030:DOMINO TILE HORIZONTAL BACK",
   "2HORIZONTAL-00-00;401;402;403;404;405;406;301-00;401;402;403;404;405;406;302-00;401;402;403",
   "404;405;406;303-00;401;402;403;404;405;406;304-00;401;402;403;404;405;406;305-00;401;402;403",
   "404;405;406;306-00;401;402;403;404;405;406;2VERTICAL BACK;2VERTICAL-00-00;401;402;403;404;405",
   "406;301-00;401;402;403;404;405;406;302-00;401;402;403;404;405;406;303-00;401;402;403;404;405",
   "406;304-00;401;402;403;404;405;406;305-00;401;402;403;404;405;406;306-00;401;402;403;404;405",
   "406;1f0a0:PLAYING CARD BACK;2ACE OF SPADES;2TWO OF SPADES;2THREE OF SPADES;2FOUR OF SPADES",
   "2FIVE OF SPADES;2SIX OF SPADES;2SEVEN OF SPADES;2EIGHT OF SPADES;2NINE OF SPADES",
   "2TEN OF SPADES;2JACK OF SPADES;2KNIGHT OF SPADES;2QUEEN OF SPADES;2KING OF SPADES",
   "1f0b1:2ACE OF HEARTS;2TWO OF HEARTS;2THREE OF HEARTS;2FOUR OF HEARTS;2FIVE OF HEARTS",
   "2SIX OF HEARTS;2SEVEN OF HEARTS;2EIGHT OF HEARTS;2NINE OF HEARTS;2TEN OF HEARTS",
   "2JACK OF HEARTS;2KNIGHT OF HEARTS;2QUEEN OF HEARTS;2KING OF HEARTS;2RED JOKER",
   "1f0c1:2ACE OF DIAMONDS;2TWO OF DIAMONDS;2THREE OF DIAMONDS;2FOUR OF DIAMONDS;2FIVE OF DIAMONDS",
   "2SIX OF DIAMONDS;2SEVEN OF DIAMONDS;2EIGHT OF DIAMONDS;2NINE OF DIAMONDS;2TEN OF DIAMONDS",
   "2JACK OF DIAMONDS;2KNIGHT OF DIAMONDS;2QUEEN OF DIAMONDS;2KING OF DIAMONDS;2BLACK JOKER",
   "1f0d1:2ACE OF CLUBS;2TWO OF CLUBS;2THREE OF CLUBS;2FOUR OF CLUBS;2FIVE OF CLUBS;2SIX OF CLUBS",
   "2SEVEN OF CLUBS;2EIGHT OF CLUBS;2NINE OF CLUBS;2TEN OF CLUBS;2JACK OF CLUBS;2KNIGHT OF CLUBS",
   "2QUEEN OF CLUBS;2KING OF CLUBS;2WHITE JOKER;2FOOL;2TRUMP-1;32;33;34;35;36;37;38;39;310;311;312",
   "313;314;315;316;317;318;319;320;321;1f100:DIGIT ZERO FULL STOP;2COMMA;1ONE COMMA;1TWO COMMA",
   "1THREE COMMA;1FOUR COMMA;1FIVE COMMA;1SIX COMMA;1SEVEN COMMA;1EIGHT COMMA;1NINE COMMA",
   "DINGBAT CIRCLED SANS-SERIF DIGIT ZERO;1NEGATIVE CIRCLED SANS-SERIF DIGIT ZERO",
   "CIRCLED ZERO WITH SLASH;1ANTICLOCKWISE ARROW;1DOLLAR SIGN WITH OVERLAID BACKSLASH",
   "PARENTHESIZED LATIN CAPITAL LETTER A;4B;4C;4D;4E;4F;4G;4H;4I;4J;4K;4L;4M;4N;4O;4P;4Q;4R;4S;4T",
   "4U;4V;4W;4X;4Y;4Z;TORTOISE SHELL BRACKETED LATIN CAPITAL LETTER S",
   "CIRCLED ITALIC LATIN CAPITAL LETTER C;5R;1CD;1WZ;COPYLEFT SYMBOL",
   "SQUARED LATIN CAPITAL LETTER A;4B;4C;4D;4E;4F;4G;4H;4I;4J;4K;4L;4M;4N;4O;4P;4Q;4R;4S;4T;4U;4V",
   "4W;4X;4Y;4Z;1HV;1MV;1SD;1SS;1PPV;1WC;NEGATIVE CIRCLED LATIN CAPITAL LETTER A;5B;5C;5D;5E;5F;5G",
   "5H;5I;5J;5K;5L;5M;5N;5O;5P;5Q;5R;5S;5T;5U;5V;5W;5X;5Y;5Z;RAISED MC SIGN;1MD SIGN;1MR SIGN",
   "CIRCLED CC;1C WITH OVERLAID BACKSLASH;1HUMAN FIGURE;NEGATIVE SQUARED LATIN CAPITAL LETTER A;5B",
   "5C;5D;5E;5F;5G;5H;5I;5J;5K;5L;5M;5N;5O;5P;5Q;5R;5S;5T;5U;5V;5W;5X;5Y;5Z",
   "CROSSED NEGATIVE SQUARED LATIN CAPITAL LETTER P;NEGATIVE SQUARED IC;2PA;2SA;2AB;2WC;SQUARE DJ",
   "SQUARED CL;1COOL;1FREE;1ID;1NEW;1NG;1OK;1SOS;1UP WITH EXCLAMATION MARK;1VS;1THREE D",
   "1SECOND SCREEN;1TWO K;1FOUR K;1EIGHT K;1FIVE POINT ONE;1SEVEN POINT ONE;1TWENTY-TWO POINT TWO",
   "1SIXTY P;1ONE HUNDRED TWENTY P;1LATIN SMALL LETTER D;1HC;1HDR;1HI-RES;1LOSSLESS;1SHV;1UHD;1VOD",
   "MASK WORK SYMBOL;1f1e6:REGIONAL INDICATOR SYMBOL LETTER A;4B;4C;4D;4E;4F;4G;4H;4I;4J;4K;4L;4M",
   "4N;4O;4P;4Q;4R;4S;4T;4U;4V;4W;4X;4Y;4Z;SQUARE HIRAGANA HOKA;SQUARED KATAKANA KOKO;2SA",
   "1f210:1CJK UNIFIED IDEOGRAPH-624B;45B57;453CC;1KATAKANA DE;1CJK UNIFIED IDEOGRAPH-4E8C;4591A",
   "489E3;45929;44EA4;46620;47121;46599;4524D;45F8C;4518D;465B0;4521D;47D42;4751F;48CA9;458F0",
   "45439;46F14;46295;46355;44E00;44E09;4904A;45DE6;44E2D;453F3;46307;48D70;46253;47981;47A7A",
   "45408;46E80;46709;46708;47533;45272;455B6;4914D",
   "1f240:TORTOISE SHELL BRACKETED CJK UNIFIED IDEOGRAPH-672C;64E09;64E8C;65B89;670B9;66253;676D7",
   "652DD;66557;1f250:CIRCLED IDEOGRAPH ADVANTAGE;2ACCEPT;1f260:ROUNDED SYMBOL FOR FU;3LU;3SHOU",
   "3XI;3SHUANGXI;3CAI;1f300:CYCLONE;FOGGY;CLOSED UMBRELLA;NIGHT WITH STARS;SUNRISE OVER MOUNTAINS",
   "SUNRISE;CITYSCAPE AT DUSK;SUNSET OVER BUILDINGS;RAINBOW;BRIDGE AT NIGHT;WATER WAVE;VOLCANO",
   "MILKY WAY;EARTH GLOBE EUROPE-AFRICA;2AMERICAS;2ASIA-AUSTRALIA;GLOBE WITH MERIDIANS",
   "NEW MOON SYMBOL;WAXING CRESCENT MOON SYMBOL;FIRST QUARTER MOON SYMBOL",
   "WAXING GIBBOUS MOON SYMBOL;FULL MOON SYMBOL;WANING GIBBOUS MOON SYMBOL",
   "LAST QUARTER MOON SYMBOL;WANING CRESCENT MOON SYMBOL;CRESCENT MOON;NEW MOON WITH FACE",
   "FIRST QUARTER MOON WITH FACE;LAST QUARTER MOON WITH FACE;FULL MOON WITH FACE;SUN WITH FACE",
   "GLOWING STAR;SHOOTING STAR;THERMOMETER;BLACK DROPLET;WHITE SUN;1SUN WITH SMALL CLOUD",
   "2BEHIND CLOUD;3CLOUD WITH RAIN;CLOUD WITH RAIN;2SNOW;2LIGHTNING;2TORNADO;FOG;WIND BLOWING FACE",
   "HOT DOG;TACO;BURRITO;CHESTNUT;SEEDLING;EVERGREEN TREE;DECIDUOUS TREE;PALM TREE;CACTUS",
   "HOT PEPPER;TULIP;CHERRY BLOSSOM;ROSE;HIBISCUS;SUNFLOWER;BLOSSOM;EAR OF MAIZE;2RICE;HERB",
   "FOUR LEAF CLOVER;MAPLE LEAF;FALLEN LEAF;LEAF FLUTTERING IN WIND;MUSHROOM;TOMATO;AUBERGINE",
   "GRAPES;MELON;WATERMELON;TANGERINE;LEMON;BANANA;PINEAPPLE;RED APPLE;GREEN APPLE;PEAR;PEACH"]

private def pictographNames5 : List String :=
  ["CHERRIES;STRAWBERRY;HAMBURGER;SLICE OF PIZZA;MEAT ON BONE;POULTRY LEG;RICE CRACKER;1BALL",
   "COOKED RICE;CURRY AND RICE;STEAMING BOWL;SPAGHETTI;BREAD;FRENCH FRIES;ROASTED SWEET POTATO",
   "DANGO;ODEN;SUSHI;FRIED SHRIMP;FISH CAKE WITH SWIRL DESIGN;SOFT ICE CREAM;SHAVED ICE;ICE CREAM",
   "DOUGHNUT;COOKIE;CHOCOLATE BAR;CANDY;LOLLIPOP;CUSTARD;HONEY POT;SHORTCAKE;BENTO BOX;POT OF FOOD",
   "COOKING;FORK AND KNIFE;TEACUP WITHOUT HANDLE;SAKE BOTTLE AND CUP;WINE GLASS;COCKTAIL GLASS",
   "TROPICAL DRINK;BEER MUG;CLINKING BEER MUGS;BABY BOTTLE;FORK AND KNIFE WITH PLATE",
   "BOTTLE WITH POPPING CORK;POPCORN;RIBBON;WRAPPED PRESENT;BIRTHDAY CAKE;JACK-O-LANTERN",
   "CHRISTMAS TREE;FATHER CHRISTMAS;FIREWORKS;FIREWORK SPARKLER;BALLOON;PARTY POPPER;CONFETTI BALL",
   "TANABATA TREE;CROSSED FLAGS;PINE DECORATION;JAPANESE DOLLS;CARP STREAMER;WIND CHIME",
   "MOON VIEWING CEREMONY;SCHOOL SATCHEL;GRADUATION CAP;HEART WITH TIP ON THE LEFT",
   "BOUQUET OF FLOWERS;MILITARY MEDAL;REMINDER RIBBON;MUSICAL KEYBOARD WITH JACKS",
   "STUDIO MICROPHONE;LEVEL SLIDER;CONTROL KNOBS;BEAMED ASCENDING MUSICAL NOTES",
   "1DESCENDING MUSICAL NOTES;FILM FRAMES;ADMISSION TICKETS;CAROUSEL HORSE;FERRIS WHEEL",
   "ROLLER COASTER;FISHING POLE AND FISH;MICROPHONE;MOVIE CAMERA;CINEMA;HEADPHONE;ARTIST PALETTE",
   "TOP HAT;CIRCUS TENT;TICKET;CLAPPER BOARD;PERFORMING ARTS;VIDEO GAME;DIRECT HIT;SLOT MACHINE",
   "BILLIARDS;GAME DIE;BOWLING;FLOWER PLAYING CARDS;MUSICAL NOTE;MULTIPLE MUSICAL NOTES;SAXOPHONE",
   "GUITAR;MUSICAL KEYBOARD;TRUMPET;VIOLIN;MUSICAL SCORE;RUNNING SHIRT WITH SASH",
   "TENNIS RACQUET AND BALL;SKI AND SKI BOOT;BASKETBALL AND HOOP;CHEQUERED FLAG;SNOWBOARDER;RUNNER",
   "SURFER;SPORTS MEDAL;TROPHY;HORSE RACING;AMERICAN FOOTBALL;RUGBY FOOTBALL;SWIMMER;WEIGHT LIFTER",
   "GOLFER;RACING MOTORCYCLE;1CAR;CRICKET BAT AND BALL;VOLLEYBALL;FIELD HOCKEY STICK AND BALL",
   "ICE HOCKEY STICK AND PUCK;TABLE TENNIS PADDLE AND BALL;SNOW CAPPED MOUNTAIN;CAMPING",
   "BEACH WITH UMBRELLA;BUILDING CONSTRUCTION;HOUSE BUILDINGS;CITYSCAPE;DERELICT HOUSE BUILDING",
   "CLASSICAL BUILDING;DESERT;DESERT ISLAND;NATIONAL PARK;STADIUM;HOUSE BUILDING;1WITH GARDEN",
   "OFFICE BUILDING;JAPANESE POST OFFICE;EUROPEAN POST OFFICE;HOSPITAL;BANK",
   "AUTOMATED TELLER MACHINE;HOTEL;LOVE HOTEL;CONVENIENCE STORE;SCHOOL;DEPARTMENT STORE;FACTORY",
   "IZAKAYA LANTERN;JAPANESE CASTLE;EUROPEAN CASTLE;WHITE PENNANT;BLACK PENNANT;WAVING WHITE FLAG",
   "1BLACK FLAG;ROSETTE;BLACK ROSETTE;LABEL;BADMINTON RACQUET AND SHUTTLECOCK;BOW AND ARROW",
   "AMPHORA;EMOJI MODIFIER FITZPATRICK TYPE-1-2;43;44;45;46;RAT;MOUSE;OX;WATER BUFFALO;COW;TIGER",
   "LEOPARD;RABBIT;CAT;DRAGON;CROCODILE;WHALE;SNAIL;SNAKE;HORSE;RAM;GOAT;SHEEP;MONKEY;ROOSTER",
   "CHICKEN;DOG;PIG;BOAR;ELEPHANT;OCTOPUS;SPIRAL SHELL;BUG;ANT;HONEYBEE;LADY BEETLE;FISH",
   "TROPICAL FISH;BLOWFISH;TURTLE;HATCHING CHICK;BABY CHICK;FRONT-FACING BABY CHICK;BIRD;PENGUIN",
   "KOALA;POODLE;DROMEDARY CAMEL;BACTRIAN CAMEL;DOLPHIN;MOUSE FACE;COW FACE;TIGER FACE;RABBIT FACE",
   "CAT FACE;DRAGON FACE;SPOUTING WHALE;HORSE FACE;MONKEY FACE;DOG FACE;PIG FACE;FROG FACE",
   "HAMSTER FACE;WOLF FACE;BEAR FACE;PANDA FACE;PIG NOSE;PAW PRINTS;CHIPMUNK;EYES;EYE;EAR;NOSE",
   "MOUTH;TONGUE;WHITE UP POINTING BACKHAND INDEX;1DOWN POINTING BACKHAND INDEX",
   "1LEFT POINTING BACKHAND INDEX;1RIGHT POINTING BACKHAND INDEX;FISTED HAND SIGN;WAVING HAND SIGN",
   "OK HAND SIGN;THUMBS UP SIGN;1DOWN SIGN;CLAPPING HANDS SIGN;OPEN HANDS SIGN;CROWN;WOMANS HAT",
   "EYEGLASSES;NECKTIE;T-SHIRT;JEANS;DRESS;KIMONO;BIKINI;WOMANS CLOTHES;PURSE;HANDBAG;POUCH",
   "MANS SHOE;ATHLETIC SHOE;HIGH-HEELED SHOE;WOMANS SANDAL;1BOOTS;FOOTPRINTS;BUST IN SILHOUETTE",
   "BUSTS IN SILHOUETTE;BOY;GIRL;MAN;WOMAN;FAMILY;MAN AND WOMAN HOLDING HANDS",
   "TWO MEN HOLDING HANDS;1WOMEN HOLDING HANDS;POLICE OFFICER;WOMAN WITH BUNNY EARS",
   "BRIDE WITH VEIL;PERSON WITH BLOND HAIR;MAN WITH GUA PI MAO;2TURBAN;OLDER MAN;1WOMAN;BABY",
   "CONSTRUCTION WORKER;PRINCESS;JAPANESE OGRE;1GOBLIN;GHOST;BABY ANGEL;EXTRATERRESTRIAL ALIEN",
   "ALIEN MONSTER;IMP;SKULL;INFORMATION DESK PERSON;GUARDSMAN;DANCER;LIPSTICK;NAIL POLISH",
   "FACE MASSAGE;HAIRCUT;BARBER POLE;SYRINGE;PILL;KISS MARK;LOVE LETTER;RING;GEM STONE;KISS",
   "BOUQUET;COUPLE WITH HEART;WEDDING;BEATING HEART;BROKEN HEART;TWO HEARTS;SPARKLING HEART",
   "GROWING HEART;HEART WITH ARROW;BLUE HEART;GREEN HEART;YELLOW HEART;PURPLE HEART",
   "HEART WITH RIBBON;REVOLVING HEARTS;HEART DECORATION;DIAMOND SHAPE WITH A DOT INSIDE",
   "ELECTRIC LIGHT BULB;ANGER SYMBOL;BOMB;SLEEPING SYMBOL;COLLISION SYMBOL;SPLASHING SWEAT SYMBOL",
   "DROPLET;DASH SYMBOL;PILE OF POO;FLEXED BICEPS;DIZZY SYMBOL;SPEECH BALLOON;THOUGHT BALLOON",
   "WHITE FLOWER;HUNDRED POINTS SYMBOL;MONEY BAG;CURRENCY EXCHANGE;HEAVY DOLLAR SIGN;CREDIT CARD",
   "BANKNOTE WITH YEN SIGN;2DOLLAR SIGN;2EURO SIGN;2POUND SIGN;MONEY WITH WINGS",
   "CHART WITH UPWARDS TREND AND YEN SIGN;SEAT;PERSONAL COMPUTER;BRIEFCASE;MINIDISC;FLOPPY DISK",
   "OPTICAL DISC;DVD;FILE FOLDER;OPEN FILE FOLDER;PAGE WITH CURL;1FACING UP;CALENDAR",
   "TEAR-OFF CALENDAR;CARD INDEX;CHART WITH UPWARDS TREND;2DOWNWARDS TREND;BAR CHART;CLIPBOARD",
   "PUSHPIN;ROUND PUSHPIN;PAPERCLIP;STRAIGHT RULER;TRIANGULAR RULER;BOOKMARK TABS;LEDGER;NOTEBOOK",
   "NOTEBOOK WITH DECORATIVE COVER;CLOSED BOOK;OPEN BOOK;GREEN BOOK;BLUE BOOK;ORANGE BOOK;BOOKS",
   "NAME BADGE;SCROLL;MEMO;TELEPHONE RECEIVER;PAGER;FAX MACHINE;SATELLITE ANTENNA",
   "PUBLIC ADDRESS LOUDSPEAKER;CHEERING MEGAPHONE;OUTBOX TRAY;INBOX TRAY;PACKAGE;E-MAIL SYMBOL",
   "INCOMING ENVELOPE;ENVELOPE WITH DOWNWARDS ARROW ABOVE;CLOSED MAILBOX WITH LOWERED FLAG",
   "3RAISED FLAG;OPEN MAILBOX WITH RAISED FLAG;3LOWERED FLAG;POSTBOX;POSTAL HORN;NEWSPAPER",
   "MOBILE PHONE;1PHONE WITH RIGHTWARDS ARROW AT LEFT;VIBRATION MODE;MOBILE PHONE OFF",
   "NO MOBILE PHONES;ANTENNA WITH BARS;CAMERA;CAMERA WITH FLASH;VIDEO CAMERA;TELEVISION;RADIO",
   "VIDEOCASSETTE;FILM PROJECTOR;PORTABLE STEREO;PRAYER BEADS;TWISTED RIGHTWARDS ARROWS",
   "CLOCKWISE RIGHTWARDS AND LEFTWARDS OPEN CIRCLE ARROWS;6ARROWS WITH CIRCLED ONE OVERLAY",
   "1DOWNWARDS AND UPWARDS OPEN CIRCLE ARROWS",
   "ANTICLOCKWISE DOWNWARDS AND UPWARDS OPEN CIRCLE ARROWS;LOW BRIGHTNESS SYMBOL",
   "HIGH BRIGHTNESS SYMBOL;SPEAKER WITH CANCELLATION STROKE;SPEAKER;SPEAKER WITH ONE SOUND WAVE",
   "2THREE SOUND WAVES;BATTERY;ELECTRIC PLUG;LEFT-POINTING MAGNIFYING GLASS",
   "RIGHT-POINTING MAGNIFYING GLASS;LOCK WITH INK PEN;CLOSED LOCK WITH KEY;KEY;LOCK;OPEN LOCK;BELL",
   "BELL WITH CANCELLATION STROKE;BOOKMARK;LINK SYMBOL;RADIO BUTTON",
   "BACK WITH LEFTWARDS ARROW ABOVE;END WITH LEFTWARDS ARROW ABOVE",
   "ON WITH EXCLAMATION MARK WITH LEFT RIGHT ARROW ABOVE;SOON WITH RIGHTWARDS ARROW ABOVE",
   "TOP WITH UPWARDS ARROW ABOVE;NO ONE UNDER EIGHTEEN SYMBOL;KEYCAP TEN",
   "INPUT SYMBOL FOR LATIN CAPITAL LETTERS;4SMALL LETTERS;3NUMBERS;3SYMBOLS;3LATIN LETTERS;FIRE",
   "ELECTRIC TORCH;WRENCH;HAMMER;NUT AND BOLT;HOCHO;PISTOL;MICROSCOPE;TELESCOPE;CRYSTAL BALL",
   "SIX POINTED STAR WITH MIDDLE DOT;JAPANESE SYMBOL FOR BEGINNER;TRIDENT EMBLEM",
   "BLACK SQUARE BUTTON;WHITE SQUARE BUTTON;LARGE RED CIRCLE;1BLUE CIRCLE;1ORANGE DIAMOND",
   "1BLUE DIAMOND;SMALL ORANGE DIAMOND;1BLUE DIAMOND;UP-POINTING RED TRIANGLE",
   "DOWN-POINTING RED TRIANGLE;UP-POINTING SMALL RED TRIANGLE;DOWN-POINTING SMALL RED TRIANGLE",
   "LOWER RIGHT SHADOWED WHITE CIRCLE;UPPER RIGHT SHADOWED WHITE CIRCLE;CIRCLED CROSS POMMEE",
   "CROSS POMMEE WITH HALF-CIRCLE BELOW;1POMMEE;NOTCHED LEFT SEMICIRCLE WITH THREE DOTS",
   "1RIGHT SEMICIRCLE WITH THREE DOTS;SYMBOL FOR MARKS CHAPTER;WHITE LATIN CROSS;HEAVY LATIN CROSS",
   "CELTIC CROSS;OM SYMBOL;DOVE OF PEACE;KAABA;MOSQUE;SYNAGOGUE;MENORAH WITH NINE BRANCHES",
   "BOWL OF HYGIEIA;CLOCK FACE ONE OCLOCK;2TWO OCLOCK;2THREE OCLOCK;2FOUR OCLOCK;2FIVE OCLOCK",
   "2SIX OCLOCK;2SEVEN OCLOCK;2EIGHT OCLOCK;2NINE OCLOCK;2TEN OCLOCK;2ELEVEN OCLOCK;2TWELVE OCLOCK",
   "2ONE-THIRTY;2TWO-THIRTY;2THREE-THIRTY;2FOUR-THIRTY;2FIVE-THIRTY;2SIX-THIRTY;2SEVEN-THIRTY",
   "2EIGHT-THIRTY;2NINE-THIRTY;2TEN-THIRTY;2ELEVEN-THIRTY;2TWELVE-THIRTY;RIGHT SPEAKER",
   "1SPEAKER WITH ONE SOUND WAVE;3THREE SOUND WAVES;BULLHORN;BULLHORN WITH SOUND WAVES",
   "RINGING BELL;BOOK;CANDLE;MANTELPIECE CLOCK;BLACK SKULL AND CROSSBONES;NO PIRACY;HOLE",
   "MAN IN BUSINESS SUIT LEVITATING;SLEUTH OR SPY;DARK SUNGLASSES;SPIDER;SPIDER WEB;JOYSTICK",
   "MAN DANCING;LEFT HAND TELEPHONE RECEIVER;TELEPHONE RECEIVER WITH PAGE",
   "RIGHT HAND TELEPHONE RECEIVER;WHITE TOUCHTONE TELEPHONE;BLACK TOUCHTONE TELEPHONE",
   "TELEPHONE ON TOP OF MODEM;CLAMSHELL MOBILE PHONE;BACK OF ENVELOPE;STAMPED ENVELOPE",
   "ENVELOPE WITH LIGHTNING;FLYING ENVELOPE;PEN OVER STAMPED ENVELOPE;LINKED PAPERCLIPS",
   "BLACK PUSHPIN;LOWER LEFT PENCIL;2BALLPOINT PEN;2FOUNTAIN PEN;2PAINTBRUSH;2CRAYON",
   "LEFT WRITING HAND;TURNED OK HAND SIGN;RAISED HAND WITH FINGERS SPLAYED",
   "REVERSED RAISED HAND WITH FINGERS SPLAYED;1THUMBS UP SIGN;2DOWN SIGN;1VICTORY HAND",
   "1HAND WITH MIDDLE FINGER EXTENDED;RAISED HAND WITH PART BETWEEN MIDDLE AND RING FINGERS",
   "WHITE DOWN POINTING LEFT HAND INDEX;SIDEWAYS WHITE LEFT POINTING INDEX;2RIGHT POINTING INDEX",
   "1BLACK LEFT POINTING INDEX;2RIGHT POINTING INDEX;BLACK LEFT POINTING BACKHAND INDEX",
   "1RIGHT POINTING BACKHAND INDEX;SIDEWAYS WHITE UP POINTING INDEX;2DOWN POINTING INDEX",
   "1BLACK UP POINTING INDEX;2DOWN POINTING INDEX;BLACK UP POINTING BACKHAND INDEX",
   "1DOWN POINTING BACKHAND INDEX;1HEART;DESKTOP COMPUTER;KEYBOARD AND MOUSE",
   "THREE NETWORKED COMPUTERS;PRINTER;POCKET CALCULATOR;BLACK HARD SHELL FLOPPY DISK",
   "WHITE HARD SHELL FLOPPY DISK;SOFT SHELL FLOPPY DISK;TAPE CARTRIDGE;WIRED KEYBOARD",
   "ONE BUTTON MOUSE;TWO BUTTON MOUSE;THREE BUTTON MOUSE;TRACKBALL;OLD PERSONAL COMPUTER;HARD DISK",
   "SCREEN;PRINTER ICON;FAX ICON;OPTICAL DISC ICON;DOCUMENT WITH TEXT;2TEXT AND PICTURE;2PICTURE",
   "FRAME WITH PICTURE;2TILES;2AN X;BLACK FOLDER;FOLDER;OPEN FOLDER;CARD INDEX DIVIDERS;1FILE BOX",
   "FILE CABINET;EMPTY NOTE;1NOTE PAGE;2PAD;NOTE;NOTE PAGE;1PAD;EMPTY DOCUMENT;1PAGE;1PAGES",
   "DOCUMENT;PAGE;PAGES;WASTEBASKET;SPIRAL NOTE PAD;1CALENDAR PAD;DESKTOP WINDOW;MINIMIZE;MAXIMIZE",
   "OVERLAP;CLOCKWISE RIGHT AND LEFT SEMICIRCLE ARROWS;CANCELLATION X;INCREASE FONT SIZE SYMBOL",
   "DECREASE FONT SIZE SYMBOL;COMPRESSION;OLD KEY;ROLLED-UP NEWSPAPER;PAGE WITH CIRCLED TEXT",
   "STOCK CHART;DAGGER KNIFE;LIPS;SPEAKING HEAD IN SILHOUETTE;THREE RAYS ABOVE;2BELOW;2LEFT;2RIGHT",
   "LEFT SPEECH BUBBLE;RIGHT SPEECH BUBBLE;TWO SPEECH BUBBLES;THREE SPEECH BUBBLES",
   "LEFT THOUGHT BUBBLE;RIGHT THOUGHT BUBBLE;LEFT ANGER BUBBLE;RIGHT ANGER BUBBLE;MOOD BUBBLE"]

private def pictographNames6 : List String :=
  ["LIGHTNING MOOD BUBBLE;1MOOD;BALLOT BOX WITH BALLOT;1SCRIPT X;1BOX WITH SCRIPT X;1BOLD SCRIPT X",
   "1BOX WITH BOLD SCRIPT X;LIGHT CHECK MARK;BALLOT BOX WITH BOLD CHECK;WORLD MAP;MOUNT FUJI",
   "TOKYO TOWER;STATUE OF LIBERTY;SILHOUETTE OF JAPAN;MOYAI;GRINNING FACE;1FACE WITH SMILING EYES",
   "FACE WITH TEARS OF JOY;SMILING FACE WITH OPEN MOUTH;4MOUTH AND SMILING EYES;6COLD SWEAT",
   "6TIGHTLY-CLOSED EYES;3HALO;3HORNS;WINKING FACE;SMILING FACE WITH SMILING EYES",
   "FACE SAVOURING DELICIOUS FOOD;RELIEVED FACE;SMILING FACE WITH HEART-SHAPED EYES;3SUNGLASSES",
   "SMIRKING FACE;NEUTRAL FACE;EXPRESSIONLESS FACE;UNAMUSED FACE;FACE WITH COLD SWEAT;PENSIVE FACE",
   "CONFUSED FACE;CONFOUNDED FACE;KISSING FACE;FACE THROWING A KISS;KISSING FACE WITH SMILING EYES",
   "3CLOSED EYES;FACE WITH STUCK-OUT TONGUE;4TONGUE AND WINKING EYE;6TIGHTLY-CLOSED EYES",
   "DISAPPOINTED FACE;WORRIED FACE;ANGRY FACE;POUTING FACE;CRYING FACE;PERSEVERING FACE",
   "FACE WITH LOOK OF TRIUMPH;DISAPPOINTED BUT RELIEVED FACE;FROWNING FACE WITH OPEN MOUTH",
   "ANGUISHED FACE;FEARFUL FACE;WEARY FACE;SLEEPY FACE;TIRED FACE;GRIMACING FACE",
   "LOUDLY CRYING FACE;FACE WITH OPEN MOUTH;HUSHED FACE;FACE WITH OPEN MOUTH AND COLD SWEAT",
   "1SCREAMING IN FEAR;ASTONISHED FACE;FLUSHED FACE;SLEEPING FACE;DIZZY FACE;FACE WITHOUT MOUTH",
   "1WITH MEDICAL MASK;GRINNING CAT FACE WITH SMILING EYES;CAT FACE WITH TEARS OF JOY",
   "SMILING CAT FACE WITH OPEN MOUTH;4HEART-SHAPED EYES;CAT FACE WITH WRY SMILE",
   "KISSING CAT FACE WITH CLOSED EYES;POUTING CAT FACE;CRYING CAT FACE;WEARY CAT FACE",
   "SLIGHTLY FROWNING FACE;1SMILING FACE;UPSIDE-DOWN FACE;FACE WITH ROLLING EYES;2NO GOOD GESTURE",
   "2OK GESTURE;PERSON BOWING DEEPLY;SEE-NO-EVIL MONKEY;HEAR-NO-EVIL MONKEY;SPEAK-NO-EVIL MONKEY",
   "HAPPY PERSON RAISING ONE HAND;PERSON RAISING BOTH HANDS IN CELEBRATION;1FROWNING",
   "1WITH POUTING FACE;2FOLDED HANDS;NORTH WEST POINTING LEAF;SOUTH WEST POINTING LEAF",
   "NORTH EAST POINTING LEAF;SOUTH EAST POINTING LEAF;TURNED NORTH WEST POINTING LEAF",
   "1SOUTH WEST POINTING LEAF;1NORTH EAST POINTING LEAF;1SOUTH EAST POINTING LEAF",
   "NORTH WEST POINTING VINE LEAF;SOUTH WEST POINTING VINE LEAF;NORTH EAST POINTING VINE LEAF",
   "SOUTH EAST POINTING VINE LEAF;HEAVY NORTH WEST POINTING VINE LEAF",
   "1SOUTH WEST POINTING VINE LEAF;1NORTH EAST POINTING VINE LEAF;1SOUTH EAST POINTING VINE LEAF",
   "NORTH WEST POINTING BUD;SOUTH WEST POINTING BUD;NORTH EAST POINTING BUD",
   "SOUTH EAST POINTING BUD;HEAVY NORTH WEST POINTING BUD;1SOUTH WEST POINTING BUD",
   "1NORTH EAST POINTING BUD;1SOUTH EAST POINTING BUD;HOLLOW QUILT SQUARE ORNAMENT",
   "3ORNAMENT IN BLACK SQUARE;SOLID QUILT SQUARE ORNAMENT;3ORNAMENT IN BLACK SQUARE",
   "LEFTWARDS ROCKET;UPWARDS ROCKET;RIGHTWARDS ROCKET;DOWNWARDS ROCKET;SCRIPT LIGATURE ET ORNAMENT",
   "HEAVY SCRIPT LIGATURE ET ORNAMENT;LIGATURE OPEN ET ORNAMENT;HEAVY LIGATURE OPEN ET ORNAMENT",
   "1AMPERSAND ORNAMENT;SWASH AMPERSAND ORNAMENT",
   "SANS-SERIF HEAVY DOUBLE TURNED COMMA QUOTATION MARK ORNAMENT;4COMMA QUOTATION MARK ORNAMENT",
   "3LOW DOUBLE COMMA QUOTATION MARK ORNAMENT;HEAVY INTERROBANG ORNAMENT",
   "SANS-SERIF INTERROBANG ORNAMENT;HEAVY SANS-SERIF INTERROBANG ORNAMENT;VERY HEAVY SOLIDUS",
   "2REVERSE SOLIDUS;CHECKER BOARD;REVERSE CHECKER BOARD;ROCKET;HELICOPTER;STEAM LOCOMOTIVE",
   "RAILWAY CAR;HIGH-SPEED TRAIN;2TRAIN WITH BULLET NOSE;TRAIN;METRO;LIGHT RAIL;STATION;TRAM",
   "TRAM CAR;BUS;ONCOMING BUS;TROLLEYBUS;BUS STOP;MINIBUS;AMBULANCE;FIRE ENGINE;POLICE CAR",
   "ONCOMING POLICE CAR;TAXI;ONCOMING TAXI;AUTOMOBILE;ONCOMING AUTOMOBILE;RECREATIONAL VEHICLE",
   "DELIVERY TRUCK;ARTICULATED LORRY;TRACTOR;MONORAIL;MOUNTAIN RAILWAY;SUSPENSION RAILWAY",
   "MOUNTAIN CABLEWAY;AERIAL TRAMWAY;SHIP;ROWBOAT;SPEEDBOAT;HORIZONTAL TRAFFIC LIGHT",
   "VERTICAL TRAFFIC LIGHT;CONSTRUCTION SIGN;POLICE CARS REVOLVING LIGHT;TRIANGULAR FLAG ON POST",
   "DOOR;NO ENTRY SIGN;SMOKING SYMBOL;NO SMOKING SYMBOL;PUT LITTER IN ITS PLACE SYMBOL",
   "DO NOT LITTER SYMBOL;POTABLE WATER SYMBOL;NON-POTABLE WATER SYMBOL;BICYCLE;NO BICYCLES",
   "BICYCLIST;MOUNTAIN BICYCLIST;PEDESTRIAN;NO PEDESTRIANS;CHILDREN CROSSING;MENS SYMBOL",
   "WOMENS SYMBOL;RESTROOM;BABY SYMBOL;TOILET;WATER CLOSET;SHOWER;BATH;BATHTUB;PASSPORT CONTROL",
   "CUSTOMS;BAGGAGE CLAIM;LEFT LUGGAGE;TRIANGLE WITH ROUNDED CORNERS;PROHIBITED SIGN",
   "CIRCLED INFORMATION SOURCE;BOYS SYMBOL;GIRLS SYMBOL;COUCH AND LAMP;SLEEPING ACCOMMODATION",
   "SHOPPING BAGS;BELLHOP BELL;BED;PLACE OF WORSHIP;OCTAGONAL SIGN;SHOPPING TROLLEY;STUPA;PAGODA",
   "HINDU TEMPLE;HUT;ELEVATOR;1f6dd:PLAYGROUND SLIDE;WHEEL;RING BUOY;HAMMER AND WRENCH;SHIELD",
   "OIL DRUM;MOTORWAY;RAILWAY TRACK;MOTOR BOAT;UP-POINTING MILITARY AIRPLANE;2AIRPLANE",
   "2SMALL AIRPLANE;SMALL AIRPLANE;NORTHEAST-POINTING AIRPLANE;AIRPLANE DEPARTURE;1ARRIVING",
   "1f6f0:SATELLITE;ONCOMING FIRE ENGINE;DIESEL LOCOMOTIVE;PASSENGER SHIP;SCOOTER;MOTOR SCOOTER",
   "CANOE;SLED;FLYING SAUCER;SKATEBOARD;AUTO RICKSHAW;PICKUP TRUCK;ROLLER SKATE",
   "1f700:ALCHEMICAL SYMBOL FOR QUINTESSENCE;3AIR;3FIRE;3EARTH;3WATER;3AQUAFORTIS;3AQUA REGIA",
   "4REGIA-2;4VITAE;4VITAE-2;3VINEGAR;3VINEGAR-2;43;3SULFUR;3PHILOSOPHERS SULFUR;3BLACK SULFUR",
   "3MERCURY SUBLIMATE;4SUBLIMATE-2;53;3CINNABAR;3SALT;3NITRE;3VITRIOL;3VITRIOL-2;3ROCK SALT",
   "4SALT-2;3GOLD;3SILVER;3IRON ORE;4ORE-2;3CROCUS OF IRON;3REGULUS OF IRON;3COPPER ORE",
   "3IRON-COPPER ORE;3SUBLIMATE OF COPPER;3CROCUS OF COPPER;5COPPER-2;3COPPER ANTIMONIATE",
   "3SALT OF COPPER ANTIMONIATE;3SUBLIMATE OF SALT OF COPPER;3VERDIGRIS;3TIN ORE;3LEAD ORE",
   "3ANTIMONY ORE;3SUBLIMATE OF ANTIMONY;3SALT OF ANTIMONY;3SUBLIMATE OF SALT OF ANTIMONY",
   "3VINEGAR OF ANTIMONY;3REGULUS OF ANTIMONY;5ANTIMONY-2;3REGULUS;3REGULUS-2;43;44;3ALKALI",
   "3ALKALI-2;3MARCASITE;3SAL-AMMONIAC;3ARSENIC;3REALGAR;3REALGAR-2;3AURIPIGMENT;3BISMUTH ORE",
   "3TARTAR;3TARTAR-2;3QUICK LIME;3BORAX;3BORAX-2;43;3ALUM;3OIL;3SPIRIT;3TINCTURE;3GUM;3WAX",
   "3POWDER;3CALX;3TUTTY;3CAPUT MORTUUM;3SCEPTER OF JOVE;3CADUCEUS;3TRIDENT;3STARRED TRIDENT",
   "3LODESTONE;3SOAP;3URINE;3HORSE DUNG;3ASHES;3POT ASHES;3BRICK;3POWDERED BRICK;3AMALGAM",
   "3STRATUM SUPER STRATUM;5STRATUM-2;3SUBLIMATION;3PRECIPITATE;3DISTILL;3DISSOLVE;3DISSOLVE-2",
   "3PURIFY;3PUTREFACTION;3CRUCIBLE;3CRUCIBLE-2;43;44;45;3ALEMBIC;3BATH OF MARY;5VAPOURS;3RETORT",
   "3HOUR;3NIGHT;3DAY-NIGHT;3MONTH;3HALF DRAM;4OUNCE",
   "1f780:BLACK LEFT-POINTING ISOSCELES RIGHT TRIANGLE;1UP-POINTING ISOSCELES RIGHT TRIANGLE",
   "1RIGHT-POINTING ISOSCELES RIGHT TRIANGLE;1DOWN-POINTING ISOSCELES RIGHT TRIANGLE",
   "1SLIGHTLY SMALL CIRCLE;MEDIUM BOLD WHITE CIRCLE;BOLD WHITE CIRCLE;HEAVY WHITE CIRCLE",
   "VERY HEAVY WHITE CIRCLE;EXTREMELY HEAVY WHITE CIRCLE",
   "WHITE CIRCLE CONTAINING BLACK SMALL CIRCLE;ROUND TARGET;BLACK TINY SQUARE",
   "1SLIGHTLY SMALL SQUARE;LIGHT WHITE SQUARE;MEDIUM WHITE SQUARE;BOLD WHITE SQUARE",
   "HEAVY WHITE SQUARE;VERY HEAVY WHITE SQUARE;EXTREMELY HEAVY WHITE SQUARE",
   "WHITE SQUARE CONTAINING BLACK VERY SMALL SQUARE;4MEDIUM SQUARE;SQUARE TARGET",
   "BLACK TINY DIAMOND;1VERY SMALL DIAMOND;1MEDIUM SMALL DIAMOND",
   "WHITE DIAMOND CONTAINING BLACK VERY SMALL DIAMOND;4MEDIUM DIAMOND;DIAMOND TARGET",
   "BLACK TINY LOZENGE;1VERY SMALL LOZENGE;1MEDIUM SMALL LOZENGE",
   "WHITE LOZENGE CONTAINING BLACK SMALL LOZENGE;THIN GREEK CROSS;LIGHT GREEK CROSS",
   "MEDIUM GREEK CROSS;BOLD GREEK CROSS;VERY BOLD GREEK CROSS;1HEAVY GREEK CROSS",
   "EXTREMELY HEAVY GREEK CROSS;THIN SALTIRE;LIGHT SALTIRE;MEDIUM SALTIRE;BOLD SALTIRE",
   "HEAVY SALTIRE;VERY HEAVY SALTIRE;EXTREMELY HEAVY SALTIRE;LIGHT FIVE SPOKED ASTERISK",
   "MEDIUM FIVE SPOKED ASTERISK;BOLD FIVE SPOKED ASTERISK;HEAVY FIVE SPOKED ASTERISK",
   "VERY HEAVY FIVE SPOKED ASTERISK;EXTREMELY HEAVY FIVE SPOKED ASTERISK;LIGHT SIX SPOKED ASTERISK",
   "MEDIUM SIX SPOKED ASTERISK;BOLD SIX SPOKED ASTERISK;HEAVY SIX SPOKED ASTERISK",
   "VERY HEAVY SIX SPOKED ASTERISK;EXTREMELY HEAVY SIX SPOKED ASTERISK;LIGHT EIGHT SPOKED ASTERISK",
   "MEDIUM EIGHT SPOKED ASTERISK;BOLD EIGHT SPOKED ASTERISK;HEAVY EIGHT SPOKED ASTERISK",
   "VERY HEAVY EIGHT SPOKED ASTERISK;LIGHT THREE POINTED BLACK STAR",
   "MEDIUM THREE POINTED BLACK STAR;THREE POINTED BLACK STAR;MEDIUM THREE POINTED PINWHEEL STAR",
   "LIGHT FOUR POINTED BLACK STAR;MEDIUM FOUR POINTED BLACK STAR;FOUR POINTED BLACK STAR",
   "MEDIUM FOUR POINTED PINWHEEL STAR;REVERSE LIGHT FOUR POINTED PINWHEEL STAR",
   "LIGHT FIVE POINTED BLACK STAR;HEAVY FIVE POINTED BLACK STAR;MEDIUM SIX POINTED BLACK STAR",
   "HEAVY SIX POINTED BLACK STAR;SIX POINTED PINWHEEL STAR;MEDIUM EIGHT POINTED BLACK STAR",
   "HEAVY EIGHT POINTED BLACK STAR;VERY HEAVY EIGHT POINTED BLACK STAR",
   "HEAVY EIGHT POINTED PINWHEEL STAR;LIGHT TWELVE POINTED BLACK STAR",
   "HEAVY TWELVE POINTED BLACK STAR;3PINWHEEL STAR;CIRCLED TRIANGLE;NEGATIVE CIRCLED TRIANGLE",
   "CIRCLED SQUARE;NEGATIVE CIRCLED SQUARE;1f7e0:LARGE ORANGE CIRCLE;1YELLOW CIRCLE;1GREEN CIRCLE",
   "1PURPLE CIRCLE;1BROWN CIRCLE;1RED SQUARE;1BLUE SQUARE;1ORANGE SQUARE;1YELLOW SQUARE",
   "1GREEN SQUARE;1PURPLE SQUARE;1BROWN SQUARE;1f7f0:HEAVY EQUALS SIGN",
   "1f800:LEFTWARDS ARROW WITH SMALL TRIANGLE ARROWHEAD",
   "UPWARDS ARROW WITH SMALL TRIANGLE ARROWHEAD;RIGHTWARDS ARROW WITH SMALL TRIANGLE ARROWHEAD",
   "DOWNWARDS ARROW WITH SMALL TRIANGLE ARROWHEAD;LEFTWARDS ARROW WITH MEDIUM TRIANGLE ARROWHEAD",
   "UPWARDS ARROW WITH MEDIUM TRIANGLE ARROWHEAD;RIGHTWARDS ARROW WITH MEDIUM TRIANGLE ARROWHEAD",
   "DOWNWARDS ARROW WITH MEDIUM TRIANGLE ARROWHEAD;LEFTWARDS ARROW WITH LARGE TRIANGLE ARROWHEAD",
   "UPWARDS ARROW WITH LARGE TRIANGLE ARROWHEAD;RIGHTWARDS ARROW WITH LARGE TRIANGLE ARROWHEAD",
   "DOWNWARDS ARROW WITH LARGE TRIANGLE ARROWHEAD",
   "1f810:LEFTWARDS ARROW WITH SMALL EQUILATERAL ARROWHEAD",
   "UPWARDS ARROW WITH SMALL EQUILATERAL ARROWHEAD",
   "RIGHTWARDS ARROW WITH SMALL EQUILATERAL ARROWHEAD",
   "DOWNWARDS ARROW WITH SMALL EQUILATERAL ARROWHEAD;LEFTWARDS ARROW WITH EQUILATERAL ARROWHEAD",
   "UPWARDS ARROW WITH EQUILATERAL ARROWHEAD;RIGHTWARDS ARROW WITH EQUILATERAL ARROWHEAD",
   "DOWNWARDS ARROW WITH EQUILATERAL ARROWHEAD;HEAVY LEFTWARDS ARROW WITH EQUILATERAL ARROWHEAD",
   "1UPWARDS ARROW WITH EQUILATERAL ARROWHEAD;1RIGHTWARDS ARROW WITH EQUILATERAL ARROWHEAD"]

private def pictographNames7 : List String :=
  ["1DOWNWARDS ARROW WITH EQUILATERAL ARROWHEAD;1LEFTWARDS ARROW WITH LARGE EQUILATERAL ARROWHEAD",
   "1UPWARDS ARROW WITH LARGE EQUILATERAL ARROWHEAD",
   "1RIGHTWARDS ARROW WITH LARGE EQUILATERAL ARROWHEAD",
   "1DOWNWARDS ARROW WITH LARGE EQUILATERAL ARROWHEAD",
   "LEFTWARDS TRIANGLE-HEADED ARROW WITH NARROW SHAFT",
   "UPWARDS TRIANGLE-HEADED ARROW WITH NARROW SHAFT",
   "RIGHTWARDS TRIANGLE-HEADED ARROW WITH NARROW SHAFT",
   "DOWNWARDS TRIANGLE-HEADED ARROW WITH NARROW SHAFT",
   "LEFTWARDS TRIANGLE-HEADED ARROW WITH MEDIUM SHAFT",
   "UPWARDS TRIANGLE-HEADED ARROW WITH MEDIUM SHAFT",
   "RIGHTWARDS TRIANGLE-HEADED ARROW WITH MEDIUM SHAFT",
   "DOWNWARDS TRIANGLE-HEADED ARROW WITH MEDIUM SHAFT",
   "LEFTWARDS TRIANGLE-HEADED ARROW WITH BOLD SHAFT;UPWARDS TRIANGLE-HEADED ARROW WITH BOLD SHAFT",
   "RIGHTWARDS TRIANGLE-HEADED ARROW WITH BOLD SHAFT",
   "DOWNWARDS TRIANGLE-HEADED ARROW WITH BOLD SHAFT",
   "LEFTWARDS TRIANGLE-HEADED ARROW WITH HEAVY SHAFT",
   "UPWARDS TRIANGLE-HEADED ARROW WITH HEAVY SHAFT",
   "RIGHTWARDS TRIANGLE-HEADED ARROW WITH HEAVY SHAFT",
   "DOWNWARDS TRIANGLE-HEADED ARROW WITH HEAVY SHAFT",
   "LEFTWARDS TRIANGLE-HEADED ARROW WITH VERY HEAVY SHAFT",
   "UPWARDS TRIANGLE-HEADED ARROW WITH VERY HEAVY SHAFT",
   "RIGHTWARDS TRIANGLE-HEADED ARROW WITH VERY HEAVY SHAFT",
   "DOWNWARDS TRIANGLE-HEADED ARROW WITH VERY HEAVY SHAFT;LEFTWARDS FINGER-POST ARROW",
   "UPWARDS FINGER-POST ARROW;RIGHTWARDS FINGER-POST ARROW;DOWNWARDS FINGER-POST ARROW",
   "LEFTWARDS SQUARED ARROW;UPWARDS SQUARED ARROW;RIGHTWARDS SQUARED ARROW;DOWNWARDS SQUARED ARROW",
   "LEFTWARDS COMPRESSED ARROW;UPWARDS COMPRESSED ARROW;RIGHTWARDS COMPRESSED ARROW",
   "DOWNWARDS COMPRESSED ARROW;LEFTWARDS HEAVY COMPRESSED ARROW;UPWARDS HEAVY COMPRESSED ARROW",
   "RIGHTWARDS HEAVY COMPRESSED ARROW;DOWNWARDS HEAVY COMPRESSED ARROW;LEFTWARDS HEAVY ARROW",
   "UPWARDS HEAVY ARROW;RIGHTWARDS HEAVY ARROW;DOWNWARDS HEAVY ARROW",
   "1f850:LEFTWARDS SANS-SERIF ARROW;UPWARDS SANS-SERIF ARROW;RIGHTWARDS SANS-SERIF ARROW",
   "DOWNWARDS SANS-SERIF ARROW;NORTH WEST SANS-SERIF ARROW;1EAST SANS-SERIF ARROW",
   "SOUTH EAST SANS-SERIF ARROW;1WEST SANS-SERIF ARROW;LEFT RIGHT SANS-SERIF ARROW",
   "UP DOWN SANS-SERIF ARROW;1f860:WIDE-HEADED LEFTWARDS LIGHT BARB ARROW",
   "2UPWARDS LIGHT BARB ARROW;2RIGHTWARDS LIGHT BARB ARROW;2DOWNWARDS LIGHT BARB ARROW",
   "2NORTH WEST LIGHT BARB ARROW;3EAST LIGHT BARB ARROW;2SOUTH EAST LIGHT BARB ARROW",
   "3WEST LIGHT BARB ARROW;2LEFTWARDS BARB ARROW;2UPWARDS BARB ARROW;2RIGHTWARDS BARB ARROW",
   "2DOWNWARDS BARB ARROW;2NORTH WEST BARB ARROW;3EAST BARB ARROW;2SOUTH EAST BARB ARROW",
   "3WEST BARB ARROW;2LEFTWARDS MEDIUM BARB ARROW;2UPWARDS MEDIUM BARB ARROW",
   "2RIGHTWARDS MEDIUM BARB ARROW;2DOWNWARDS MEDIUM BARB ARROW;2NORTH WEST MEDIUM BARB ARROW",
   "3EAST MEDIUM BARB ARROW;2SOUTH EAST MEDIUM BARB ARROW;3WEST MEDIUM BARB ARROW",
   "2LEFTWARDS HEAVY BARB ARROW;2UPWARDS HEAVY BARB ARROW;2RIGHTWARDS HEAVY BARB ARROW",
   "2DOWNWARDS HEAVY BARB ARROW;2NORTH WEST HEAVY BARB ARROW;3EAST HEAVY BARB ARROW",
   "2SOUTH EAST HEAVY BARB ARROW;3WEST HEAVY BARB ARROW;2LEFTWARDS VERY HEAVY BARB ARROW",
   "2UPWARDS VERY HEAVY BARB ARROW;2RIGHTWARDS VERY HEAVY BARB ARROW",
   "2DOWNWARDS VERY HEAVY BARB ARROW;2NORTH WEST VERY HEAVY BARB ARROW;3EAST VERY HEAVY BARB ARROW",
   "2SOUTH EAST VERY HEAVY BARB ARROW;3WEST VERY HEAVY BARB ARROW",
   "1f890:LEFTWARDS TRIANGLE ARROWHEAD;UPWARDS TRIANGLE ARROWHEAD;RIGHTWARDS TRIANGLE ARROWHEAD",
   "DOWNWARDS TRIANGLE ARROWHEAD;LEFTWARDS WHITE ARROW WITHIN TRIANGLE ARROWHEAD",
   "UPWARDS WHITE ARROW WITHIN TRIANGLE ARROWHEAD;RIGHTWARDS WHITE ARROW WITHIN TRIANGLE ARROWHEAD",
   "DOWNWARDS WHITE ARROW WITHIN TRIANGLE ARROWHEAD;LEFTWARDS ARROW WITH NOTCHED TAIL",
   "UPWARDS ARROW WITH NOTCHED TAIL;RIGHTWARDS ARROW WITH NOTCHED TAIL",
   "DOWNWARDS ARROW WITH NOTCHED TAIL;HEAVY ARROW SHAFT WIDTH ONE;4TWO THIRDS;4ONE HALF;5THIRD",
   "LEFTWARDS BOTTOM-SHADED WHITE ARROW;RIGHTWARDS BOTTOM SHADED WHITE ARROW",
   "LEFTWARDS TOP SHADED WHITE ARROW;RIGHTWARDS TOP SHADED WHITE ARROW",
   "LEFTWARDS LEFT-SHADED WHITE ARROW;RIGHTWARDS RIGHT-SHADED WHITE ARROW",
   "LEFTWARDS RIGHT-SHADED WHITE ARROW;RIGHTWARDS LEFT-SHADED WHITE ARROW",
   "LEFTWARDS BACK-TILTED SHADOWED WHITE ARROW;RIGHTWARDS BACK-TILTED SHADOWED WHITE ARROW",
   "LEFTWARDS FRONT-TILTED SHADOWED WHITE ARROW;RIGHTWARDS FRONT-TILTED SHADOWED WHITE ARROW",
   "WHITE ARROW SHAFT WIDTH ONE;4TWO THIRDS;1f8b0:ARROW POINTING UPWARDS THEN NORTH WEST",
   "2RIGHTWARDS THEN CURVING SOUTH WEST;1f900:CIRCLED CROSS FORMEE WITH FOUR DOTS;4TWO DOTS",
   "2FORMEE;LEFT HALF CIRCLE WITH FOUR DOTS;4THREE DOTS;4TWO DOTS;4DOT;2CIRCLE",
   "DOWNWARD FACING HOOK;2NOTCHED HOOK;2HOOK WITH DOT;2NOTCHED HOOK WITH DOT;PINCHED FINGERS",
   "WHITE HEART;BROWN HEART;PINCHING HAND;ZIPPER-MOUTH FACE;MONEY-MOUTH FACE;FACE WITH THERMOMETER",
   "NERD FACE;THINKING FACE;FACE WITH HEAD-BANDAGE;ROBOT FACE;HUGGING FACE;SIGN OF THE HORNS",
   "CALL ME HAND;RAISED BACK OF HAND;LEFT-FACING FIST;RIGHT-FACING FIST;HANDSHAKE",
   "HAND WITH INDEX AND MIDDLE FINGERS CROSSED;I LOVE YOU HAND SIGN;FACE WITH COWBOY HAT",
   "CLOWN FACE;NAUSEATED FACE;ROLLING ON THE FLOOR LAUGHING;DROOLING FACE;LYING FACE;FACE PALM",
   "SNEEZING FACE;FACE WITH ONE EYEBROW RAISED;GRINNING FACE WITH STAR EYES",
   "3ONE LARGE AND ONE SMALL EYE;FACE WITH FINGER COVERING CLOSED LIPS",
   "SERIOUS FACE WITH SYMBOLS COVERING MOUTH",
   "SMILING FACE WITH SMILING EYES AND HAND COVERING MOUTH;FACE WITH OPEN MOUTH VOMITING",
   "SHOCKED FACE WITH EXPLODING HEAD;PREGNANT WOMAN;BREAST-FEEDING;PALMS UP TOGETHER;SELFIE;PRINCE",
   "MAN IN TUXEDO;MOTHER CHRISTMAS;SHRUG;PERSON DOING CARTWHEEL;JUGGLING;FENCER;MODERN PENTATHLON",
   "WRESTLERS;WATER POLO;HANDBALL;DIVING MASK;WILTED FLOWER;DRUM WITH DRUMSTICKS;CLINKING GLASSES",
   "TUMBLER GLASS;SPOON;GOAL NET;RIFLE;FIRST PLACE MEDAL;SECOND PLACE MEDAL;THIRD PLACE MEDAL",
   "BOXING GLOVE;MARTIAL ARTS UNIFORM;CURLING STONE;LACROSSE STICK AND BALL;SOFTBALL;FLYING DISC",
   "CROISSANT;AVOCADO;CUCUMBER;BACON;POTATO;CARROT;BAGUETTE BREAD;GREEN SALAD;SHALLOW PAN OF FOOD",
   "STUFFED FLATBREAD;EGG;GLASS OF MILK;PEANUTS;KIWIFRUIT;PANCAKES;DUMPLING;FORTUNE COOKIE",
   "TAKEOUT BOX;CHOPSTICKS;BOWL WITH SPOON;CUP WITH STRAW;COCONUT;BROCCOLI;PIE;PRETZEL;CUT OF MEAT",
   "SANDWICH;CANNED FOOD;LEAFY GREEN;MANGO;MOON CAKE;BAGEL",
   "SMILING FACE WITH SMILING EYES AND THREE HEARTS;YAWNING FACE;SMILING FACE WITH TEAR",
   "FACE WITH PARTY HORN AND PARTY HAT;2UNEVEN EYES AND WAVY MOUTH;OVERHEATED FACE;FREEZING FACE",
   "NINJA;DISGUISED FACE;FACE HOLDING BACK TEARS;1WITH PLEADING EYES;SARI;LAB COAT;GOGGLES",
   "HIKING BOOT;FLAT SHOE;CRAB;LION FACE;SCORPION;TURKEY;UNICORN FACE;EAGLE;DUCK;BAT;SHARK;OWL",
   "FOX FACE;BUTTERFLY;DEER;GORILLA;LIZARD;RHINOCEROS;SHRIMP;SQUID;GIRAFFE FACE;ZEBRA FACE",
   "HEDGEHOG;SAUROPOD;T-REX;CRICKET;KANGAROO;LLAMA;PEACOCK;HIPPOPOTAMUS;PARROT;RACCOON;LOBSTER",
   "MOSQUITO;MICROBE;BADGER;SWAN;MAMMOTH;DODO;SLOTH;OTTER;ORANGUTAN;SKUNK;FLAMINGO;OYSTER;BEAVER",
   "BISON;SEAL;GUIDE DOG;PROBING CANE;EMOJI COMPONENT RED HAIR;2CURLY HAIR;2BALD;2WHITE HAIR;BONE",
   "LEG;FOOT;TOOTH;SUPERHERO;SUPERVILLAIN;SAFETY VEST;EAR WITH HEARING AID;MOTORIZED WHEELCHAIR",
   "MANUAL WHEELCHAIR;MECHANICAL ARM;1LEG;CHEESE WEDGE;CUPCAKE;SALT SHAKER;BEVERAGE BOX;GARLIC",
   "ONION;FALAFEL;WAFFLE;BUTTER;MATE DRINK;ICE CUBE;BUBBLE TEA;TROLL;STANDING PERSON",
   "KNEELING PERSON;DEAF PERSON;FACE WITH MONOCLE;ADULT;CHILD;OLDER ADULT;BEARDED PERSON",
   "PERSON WITH HEADSCARF;1IN STEAMY ROOM;1CLIMBING;1IN LOTUS POSITION;MAGE;FAIRY;VAMPIRE",
   "MERPERSON;ELF;GENIE;ZOMBIE;BRAIN;ORANGE HEART;BILLED CAP;SCARF;GLOVES;COAT;SOCKS",
   "RED GIFT ENVELOPE;FIRECRACKER;JIGSAW PUZZLE PIECE;TEST TUBE;PETRI DISH;DNA DOUBLE HELIX",
   "COMPASS;ABACUS;FIRE EXTINGUISHER;TOOLBOX;BRICK;MAGNET;LUGGAGE;LOTION BOTTLE;SPOOL OF THREAD",
   "BALL OF YARN;SAFETY PIN;TEDDY BEAR;BROOM;BASKET;ROLL OF PAPER;BAR OF SOAP;SPONGE;RECEIPT",
   "NAZAR AMULET;NEUTRAL CHESS KING;2QUEEN;2ROOK;2BISHOP;2KNIGHT;2PAWN",
   "WHITE CHESS KNIGHT ROTATED FORTY-FIVE DEGREES;BLACK CHESS KNIGHT ROTATED FORTY-FIVE DEGREES",
   "NEUTRAL CHESS KNIGHT ROTATED FORTY-FIVE DEGREES;WHITE CHESS KING ROTATED NINETY DEGREES",
   "2QUEEN ROTATED NINETY DEGREES;2ROOK ROTATED NINETY DEGREES;2BISHOP ROTATED NINETY DEGREES",
   "2KNIGHT ROTATED NINETY DEGREES;2PAWN ROTATED NINETY DEGREES",
   "BLACK CHESS KING ROTATED NINETY DEGREES;2QUEEN ROTATED NINETY DEGREES",
   "2ROOK ROTATED NINETY DEGREES;2BISHOP ROTATED NINETY DEGREES;2KNIGHT ROTATED NINETY DEGREES",
   "2PAWN ROTATED NINETY DEGREES;NEUTRAL CHESS KING ROTATED NINETY DEGREES",
   "2QUEEN ROTATED NINETY DEGREES;2ROOK ROTATED NINETY DEGREES;2BISHOP ROTATED NINETY DEGREES",
   "2KNIGHT ROTATED NINETY DEGREES;2PAWN ROTATED NINETY DEGREES",
   "WHITE CHESS KNIGHT ROTATED ONE HUNDRED THIRTY-FIVE DEGREES",
   "BLACK CHESS KNIGHT ROTATED ONE HUNDRED THIRTY-FIVE DEGREES",
   "NEUTRAL CHESS KNIGHT ROTATED ONE HUNDRED THIRTY-FIVE DEGREES;WHITE CHESS TURNED KING;3QUEEN",
   "3ROOK;3BISHOP;3KNIGHT;3PAWN;BLACK CHESS TURNED KING;3QUEEN;3ROOK;3BISHOP;3KNIGHT;3PAWN",
   "NEUTRAL CHESS TURNED KING;3QUEEN;3ROOK;3BISHOP;3KNIGHT;3PAWN",
   "WHITE CHESS KNIGHT ROTATED TWO HUNDRED TWENTY-FIVE DEGREES",
   "BLACK CHESS KNIGHT ROTATED TWO HUNDRED TWENTY-FIVE DEGREES",
   "NEUTRAL CHESS KNIGHT ROTATED TWO HUNDRED TWENTY-FIVE DEGREES",
   "WHITE CHESS KING ROTATED TWO HUNDRED SEVENTY DEGREES"]

private def pictographNames8 : List String :=
  ["2QUEEN ROTATED TWO HUNDRED SEVENTY DEGREES;2ROOK ROTATED TWO HUNDRED SEVENTY DEGREES",
   "2BISHOP ROTATED TWO HUNDRED SEVENTY DEGREES;2KNIGHT ROTATED TWO HUNDRED SEVENTY DEGREES",
   "2PAWN ROTATED TWO HUNDRED SEVENTY DEGREES;BLACK CHESS KING ROTATED TWO HUNDRED SEVENTY DEGREES",
   "2QUEEN ROTATED TWO HUNDRED SEVENTY DEGREES;2ROOK ROTATED TWO HUNDRED SEVENTY DEGREES",
   "2BISHOP ROTATED TWO HUNDRED SEVENTY DEGREES;2KNIGHT ROTATED TWO HUNDRED SEVENTY DEGREES",
   "2PAWN ROTATED TWO HUNDRED SEVENTY DEGREES",
   "NEUTRAL CHESS KING ROTATED TWO HUNDRED SEVENTY DEGREES",
   "2QUEEN ROTATED TWO HUNDRED SEVENTY DEGREES;2ROOK ROTATED TWO HUNDRED SEVENTY DEGREES",
   "2BISHOP ROTATED TWO HUNDRED SEVENTY DEGREES;2KNIGHT ROTATED TWO HUNDRED SEVENTY DEGREES",
   "2PAWN ROTATED TWO HUNDRED SEVENTY DEGREES",
   "WHITE CHESS KNIGHT ROTATED THREE HUNDRED FIFTEEN DEGREES",
   "BLACK CHESS KNIGHT ROTATED THREE HUNDRED FIFTEEN DEGREES",
   "NEUTRAL CHESS KNIGHT ROTATED THREE HUNDRED FIFTEEN DEGREES;WHITE CHESS EQUIHOPPER",
   "BLACK CHESS EQUIHOPPER;NEUTRAL CHESS EQUIHOPPER;WHITE CHESS EQUIHOPPER ROTATED NINETY DEGREES",
   "BLACK CHESS EQUIHOPPER ROTATED NINETY DEGREES;NEUTRAL CHESS EQUIHOPPER ROTATED NINETY DEGREES",
   "WHITE CHESS KNIGHT-QUEEN;3ROOK;3BISHOP;BLACK CHESS KNIGHT-QUEEN;3ROOK;3BISHOP",
   "1fa60:XIANGQI RED GENERAL;2MANDARIN;2ELEPHANT;2HORSE;2CHARIOT;2CANNON;2SOLDIER;1BLACK GENERAL",
   "2MANDARIN;2ELEPHANT;2HORSE;2CHARIOT;2CANNON;2SOLDIER;1fa70:BALLET SHOES;ONE-PIECE SWIMSUIT",
   "BRIEFS;SHORTS;THONG SANDAL;1fa78:DROP OF BLOOD;ADHESIVE BANDAGE;STETHOSCOPE;X-RAY;CRUTCH",
   "1fa80:YO-YO;KITE;PARACHUTE;BOOMERANG;MAGIC WAND;PINATA;NESTING DOLLS;1fa90:RINGED PLANET;CHAIR",
   "RAZOR;AXE;DIYA LAMP;BANJO;MILITARY HELMET;ACCORDION;LONG DRUM;COIN;CARPENTRY SAW;SCREWDRIVER",
   "LADDER;HOOK;MIRROR;WINDOW;PLUNGER;SEWING NEEDLE;KNOT;BUCKET;MOUSE TRAP;TOOTHBRUSH;HEADSTONE",
   "PLACARD;ROCK;MIRROR BALL;IDENTIFICATION CARD;LOW BATTERY;HAMSA;1fab0:FLY;WORM;BEETLE;COCKROACH",
   "POTTED PLANT;WOOD;FEATHER;LOTUS;CORAL;EMPTY NEST;NEST WITH EGGS;1fac0:ANATOMICAL HEART;LUNGS",
   "PEOPLE HUGGING;PREGNANT MAN;1PERSON;PERSON WITH CROWN;1fad0:BLUEBERRIES;BELL PEPPER;OLIVE",
   "FLATBREAD;TAMALE;FONDUE;TEAPOT;POURING LIQUID;BEANS;JAR;1fae0:MELTING FACE;SALUTING FACE",
   "FACE WITH OPEN EYES AND HAND OVER MOUTH;2PEEKING EYE;2DIAGONAL MOUTH;DOTTED LINE FACE",
   "BITING LIP;BUBBLES;1faf0:HAND WITH INDEX FINGER AND THUMB CROSSED;RIGHTWARDS HAND",
   "LEFTWARDS HAND;PALM DOWN HAND;1UP HAND;INDEX POINTING AT THE VIEWER;HEART HANDS",
   "1fb00:BLOCK SEXTANT-1;22;212;23;213;223;2123;24;214;224;2124;234;2134;2234;21234;25;215;225",
   "2125;235;2235;21235;245;2145;2245;21245;2345;21345;22345;212345;26;216;226;2126;236;2136;2236",
   "21236;246;2146;21246;2346;21346;22346;212346;256;2156;2256;21256;2356;21356;22356;212356;2456",
   "21456;22456;212456;23456;213456;223456",
   "LOWER LEFT BLOCK DIAGONAL LOWER MIDDLE LEFT TO LOWER CENTRE;9RIGHT",
   "4UPPER MIDDLE LEFT TO LOWER CENTRE;9RIGHT;5LEFT TO LOWER CENTRE",
   "1RIGHT BLOCK DIAGONAL UPPER MIDDLE LEFT TO UPPER CENTRE;9RIGHT",
   "4LOWER MIDDLE LEFT TO UPPER CENTRE;9RIGHT;5LEFT TO UPPER CENTRE",
   "5MIDDLE LEFT TO UPPER MIDDLE RIGHT;5CENTRE TO LOWER MIDDLE RIGHT;5LEFT TO LOWER MIDDLE RIGHT",
   "5CENTRE TO UPPER MIDDLE RIGHT;5LEFT TO UPPER MIDDLE RIGHT;5CENTRE TO UPPER RIGHT",
   "1LEFT BLOCK DIAGONAL UPPER CENTRE TO UPPER MIDDLE RIGHT;5LEFT TO UPPER MIDDLE RIGHT",
   "5CENTRE TO LOWER MIDDLE RIGHT;5LEFT TO LOWER MIDDLE RIGHT;5CENTRE TO LOWER RIGHT",
   "5MIDDLE LEFT TO LOWER MIDDLE RIGHT",
   "UPPER RIGHT BLOCK DIAGONAL LOWER MIDDLE LEFT TO LOWER CENTRE;9RIGHT",
   "4UPPER MIDDLE LEFT TO LOWER CENTRE;9RIGHT;5LEFT TO LOWER CENTRE",
   "1LEFT BLOCK DIAGONAL UPPER MIDDLE LEFT TO UPPER CENTRE;9RIGHT",
   "4LOWER MIDDLE LEFT TO UPPER CENTRE;9RIGHT;5LEFT TO UPPER CENTRE",
   "5MIDDLE LEFT TO UPPER MIDDLE RIGHT;5CENTRE TO LOWER MIDDLE RIGHT;5LEFT TO LOWER MIDDLE RIGHT",
   "5CENTRE TO UPPER MIDDLE RIGHT;5LEFT TO UPPER MIDDLE RIGHT;5CENTRE TO UPPER RIGHT",
   "1RIGHT BLOCK DIAGONAL UPPER CENTRE TO UPPER MIDDLE RIGHT;5LEFT TO UPPER MIDDLE RIGHT",
   "5CENTRE TO LOWER MIDDLE RIGHT;5LEFT TO LOWER MIDDLE RIGHT;5CENTRE TO LOWER RIGHT",
   "5MIDDLE LEFT TO LOWER MIDDLE RIGHT;1AND RIGHT AND LOWER TRIANGULAR THREE QUARTERS BLOCK",
   "LEFT AND LOWER AND RIGHT TRIANGULAR THREE QUARTERS BLOCK",
   "UPPER AND LEFT AND LOWER TRIANGULAR THREE QUARTERS BLOCK",
   "LEFT AND UPPER AND RIGHT TRIANGULAR THREE QUARTERS BLOCK;1TRIANGULAR ONE QUARTER BLOCK",
   "UPPER TRIANGULAR ONE QUARTER BLOCK;RIGHT TRIANGULAR ONE QUARTER BLOCK",
   "LOWER TRIANGULAR ONE QUARTER BLOCK;VERTICAL ONE EIGHTH BLOCK-2;43;44;45;46;47",
   "HORIZONTAL ONE EIGHTH BLOCK-2;43;44;45;46;47;LEFT AND LOWER ONE EIGHTH BLOCK",
   "2UPPER ONE EIGHTH BLOCK;RIGHT AND UPPER ONE EIGHTH BLOCK;2LOWER ONE EIGHTH BLOCK",
   "UPPER AND LOWER ONE EIGHTH BLOCK;HORIZONTAL ONE EIGHTH BLOCK-1358;UPPER ONE QUARTER BLOCK",
   "1THREE EIGHTHS BLOCK;1FIVE EIGHTHS BLOCK;1THREE QUARTERS BLOCK;1SEVEN EIGHTHS BLOCK",
   "RIGHT ONE QUARTER BLOCK;1THREE EIGHTHS BLOCK;1FIVE EIGHTHS BLOCK;1THREE QUARTERS BLOCK",
   "1SEVEN EIGHTHS BLOCK;LEFT HALF MEDIUM SHADE;RIGHT HALF MEDIUM SHADE;UPPER HALF MEDIUM SHADE",
   "LOWER HALF MEDIUM SHADE;INVERSE MEDIUM SHADE",
   "UPPER HALF BLOCK AND LOWER HALF INVERSE MEDIUM SHADE",
   "2INVERSE MEDIUM SHADE AND LOWER HALF BLOCK",
   "1fb94:LEFT HALF INVERSE MEDIUM SHADE AND RIGHT HALF BLOCK;CHECKER BOARD FILL",
   "INVERSE CHECKER BOARD FILL;HEAVY HORIZONTAL FILL;UPPER LEFT TO LOWER RIGHT FILL",
   "1RIGHT TO LOWER LEFT FILL;1AND LOWER TRIANGULAR HALF BLOCK",
   "LEFT AND RIGHT TRIANGULAR HALF BLOCK;UPPER LEFT TRIANGULAR MEDIUM SHADE",
   "1RIGHT TRIANGULAR MEDIUM SHADE;LOWER RIGHT TRIANGULAR MEDIUM SHADE",
   "1LEFT TRIANGULAR MEDIUM SHADE;BOX DRAWINGS LIGHT DIAGONAL UPPER CENTRE TO MIDDLE LEFT;8RIGHT",
   "4MIDDLE LEFT TO LOWER CENTRE;5RIGHT TO LOWER CENTRE",
   "4UPPER CENTRE TO MIDDLE LEFT TO LOWER CENTRE;8RIGHT TO LOWER CENTRE",
   "4MIDDLE LEFT TO LOWER CENTRE TO MIDDLE RIGHT;7UPPER CENTRE TO MIDDLE RIGHT",
   "4UPPER CENTRE TO MIDDLE LEFT AND MIDDLE RIGHT TO LOWER CENTRE",
   "8RIGHT AND MIDDLE LEFT TO LOWER CENTRE;9TO LOWER CENTRE TO MIDDLE LEFT",
   "8LEFT TO LOWER CENTRE TO MIDDLE RIGHT",
   "4MIDDLE LEFT TO UPPER CENTRE TO MIDDLE RIGHT TO LOWER CENTRE",
   "5RIGHT TO UPPER CENTRE TO MIDDLE LEFT TO LOWER CENTRE;4DIAMOND",
   "3HORIZONTAL WITH VERTICAL STROKE;ARROWHEAD-SHAPED POINTER;INVERSE CHECK MARK",
   "LEFT HALF RUNNING MAN;RIGHT HALF RUNNING MAN;INVERSE DOWNWARDS ARROW WITH TIP LEFTWARDS",
   "LEFTWARDS ARROW AND UPPER AND LOWER ONE EIGHTH BLOCK",
   "RIGHTWARDS ARROW AND UPPER AND LOWER ONE EIGHTH BLOCK",
   "DOWNWARDS ARROW AND RIGHT ONE EIGHTH BLOCK;UPWARDS ARROW AND RIGHT ONE EIGHTH BLOCK",
   "LEFT HALF FOLDER;RIGHT HALF FOLDER;VOIDED GREEK CROSS;RIGHT OPEN SQUARED DOT",
   "NEGATIVE DIAGONAL CROSS;2MIDDLE RIGHT TO LOWER CENTRE;2DIAMOND",
   "WHITE HEAVY SALTIRE WITH ROUNDED CORNERS;LEFT THIRD WHITE RIGHT POINTING INDEX",
   "MIDDLE THIRD WHITE RIGHT POINTING INDEX;RIGHT THIRD WHITE RIGHT POINTING INDEX",
   "NEGATIVE SQUARED QUESTION MARK;STICK FIGURE;1FIGURE WITH ARMS RAISED;2LEANING LEFT;3RIGHT",
   "2WITH DRESS;WHITE UP-POINTING CHEVRON;1fbf0:SEGMENTED DIGIT ZERO;2ONE;2TWO;2THREE;2FOUR;2FIVE",
   "2SIX;2SEVEN;2EIGHT;2NINE;e0001:LANGUAGE TAG;e0020:TAG SPACE;1EXCLAMATION MARK;1QUOTATION MARK",
   "1NUMBER SIGN;1DOLLAR SIGN;1PERCENT SIGN;1AMPERSAND;1APOSTROPHE;1LEFT PARENTHESIS",
   "1RIGHT PARENTHESIS;1ASTERISK;1PLUS SIGN;1COMMA;1HYPHEN-MINUS;1FULL STOP;1SOLIDUS;1DIGIT ZERO",
   "2ONE;2TWO;2THREE;2FOUR;2FIVE;2SIX;2SEVEN;2EIGHT;2NINE;1COLON;1SEMICOLON;1LESS-THAN SIGN",
   "1EQUALS SIGN;1GREATER-THAN SIGN;1QUESTION MARK;1COMMERCIAL AT;1LATIN CAPITAL LETTER A;4B;4C;4D",
   "4E;4F;4G;4H;4I;4J;4K;4L;4M;4N;4O;4P;4Q;4R;4S;4T;4U;4V;4W;4X;4Y;4Z;1LEFT SQUARE BRACKET",
   "1REVERSE SOLIDUS;1RIGHT SQUARE BRACKET;1CIRCUMFLEX ACCENT;1LOW LINE;1GRAVE ACCENT",
   "1LATIN SMALL LETTER A;4B;4C;4D;4E;4F;4G;4H;4I;4J;4K;4L;4M;4N;4O;4P;4Q;4R;4S;4T;4U;4V;4W;4X;4Y",
   "4Z;1LEFT CURLY BRACKET;1VERTICAL LINE;1RIGHT CURLY BRACKET;1TILDE;CANCEL TAG",
   "e0100:VARIATION SELECTOR-17;218;219;220;221;222;223;224;225;226;227;228;229;230;231;232;233",
   "234;235;236;237;238;239;240;241;242;243;244;245;246;247;248;249;250;251;252;253;254;255;256",
   "257;258;259;260;261;262;263;264;265;266;267;268;269;270;271;272;273;274;275;276;277;278;279",
   "280;281;282;283;284;285;286;287;288;289;290;291;292;293;294;295;296;297;298;299;2100;2101;2102",
   "2103;2104;2105;2106;2107;2108;2109;2110;2111;2112;2113;2114;2115;2116;2117;2118;2119;2120;2121",
   "2122;2123;2124;2125;2126;2127;2128;2129;2130;2131;2132;2133;2134;2135;2136;2137;2138;2139;2140",
   "2141;2142;2143;2144;2145;2146;2147;2148;2149;2150;2151;2152;2153;2154;2155;2156;2157;2158;2159",
   "2160;2161;2162;2163;2164;2165;2166;2167;2168;2169;2170;2171;2172;2173;2174;2175;2176;2177;2178",
   "2179;2180;2181;2182;2183;2184;2185;2186;2187;2188;2189;2190;2191;2192;2193;2194;2195;2196;2197",
   "2198;2199;2200;2201;2202;2203;2204;2205;2206;2207;2208;2209;2210;2211;2212;2213;2214;2215;2216",
   "2217;2218;2219;2220;2221;2222;2223;2224;2225;2226;2227;2228;2229;2230;2231;2232;2233;2234;2235",
   "2236;2237;2238;2239;2240;2241;2242;2243;2244;2245;2246;2247;2248;2249;2250;2251;2252;2253;2254",
   "2255;2256"]

def pictographNames : List String :=
  pictographNames1 ++ pictographNames2 ++ pictographNames3 ++ pictographNames4 ++
    pictographNames5 ++ pictographNames6 ++ pictographNames7 ++ pictographNames8

end TitleSieve.Text
