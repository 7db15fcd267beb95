/-
The vocabulary of English inflection.

Nouns that follow no rule, nouns that a rule must be told about, and endings that stand for a
whole family of compounds. All words are in lower case. The lists are read by the rules of
`EntitySchema.Inflection.Plural` and `EntitySchema.Inflection.Singular`, which fix the order in
which they are consulted.

The lists and the rules are those of the inflect package, release 7.6.0, with the table of nouns
that `houseNouns` puts in front of them. A program that only asks for `inflect>=7.0` may meet
another release, and then a few words are inflected otherwise: of the endings in
`uninflectedEndings` the nouns equipment, luggage, baggage, jewelry, machinery, cutlery and
livestock are not in every release from 7.0 on. What the other modules know of this file is little.
Relations ask for `isPlural`, `pluralize` and `singularize` alone, and the theory of names takes
what it needs of these as hypotheses. The one fact that it draws from the lists themselves is that
their entries are made of letters that may stand in a name, and that holds of any release.
-/

set_option autoImplicit false

namespace EntitySchema.Inflection

/-- A word in lower case. -/
abbrev Word := List Char

/-- Words from their spellings. -/
def wordList (spellings : List String) : List Word := spellings.map String.toList

/-- Pairs of words from their spellings. -/
def pairList (spellings : List (String × String)) : List (Word × Word) :=
  spellings.map fun pair => (pair.1.toList, pair.2.toList)

/-! ## Words that are their own plural -/

/-- Nouns with one form for both numbers. -/
def uninflected : List Word := wordList
  ["tuna", "salmon", "mackerel", "trout", "bream", "sea-bass", "carp", "cod", "flounder",
   "whiting", "moose", "graffiti", "djinn", "samuri", "offspring", "pence", "quid", "hertz",
   "breeches", "britches", "pajamas", "pyjamas", "clippers", "gallows", "hijinks",
   "headquarters", "pliers", "scissors", "testes", "herpes", "pincers", "shears", "proceedings",
   "trousers", "cantus", "coitus", "nexus", "contretemps", "corps", "debris", "siemens",
   "mumps", "diabetes", "jackanapes", "series", "species", "subspecies", "rabies", "chassis",
   "innings", "news", "mews", "haggis"]

/-- Endings of nouns with one form for both numbers. -/
def uninflectedEndings : List Word := wordList
  ["butter", "cash", "furniture", "information", "equipment", "luggage", "baggage", "jewelry",
   "machinery", "cutlery", "livestock", "fish", "deer", "sheep", "nese", "rese", "lese", "mese",
   "pox", "craft", "ois", "measles"]

/-! ## Irregular nouns -/

/-- Singular and plural of the nouns whose plural is fixed before any other rule is asked. -/
def houseNouns : List (Word × Word) := pairList
  [("alumnus", "alumni"), ("bacillus", "bacilli"), ("bayou", "bayous"), ("cactus", "cacti"),
   ("emu", "emus"), ("focus", "foci"), ("fungus", "fungi"), ("gnu", "gnus"), ("guru", "gurus"),
   ("haiku", "haikus"), ("menu", "menus"), ("nucleus", "nuclei"), ("radius", "radii"),
   ("stimulus", "stimuli"), ("syllabus", "syllabi"), ("taxi", "taxis"), ("terminus", "termini"),
   ("tutu", "tutus")]

/-- Plurals that no rule produces. -/
def irregularPlurals : List (Word × Word) := pairList
  [("child", "children"), ("chili", "chilis"), ("brother", "brothers"),
   ("infinity", "infinities"), ("loaf", "loaves"), ("lore", "lores"), ("hoof", "hoofs"),
   ("beef", "beefs"), ("thief", "thiefs"), ("money", "monies"), ("mongoose", "mongooses"),
   ("ox", "oxen"), ("cow", "cows"), ("graffito", "graffiti"), ("octopus", "octopuses"),
   ("genie", "genies"), ("ganglion", "ganglions"), ("trilby", "trilbys"), ("turf", "turfs"),
   ("numen", "numina"), ("atman", "atmas"), ("occiput", "occiputs"),
   ("sabretooth", "sabretooths"), ("sabertooth", "sabertooths"), ("lowlife", "lowlifes"),
   ("flatfoot", "flatfoots"), ("tenderfoot", "tenderfoots"), ("romany", "romanies"),
   ("jerry", "jerries"), ("mary", "maries"), ("talouse", "talouses"), ("rom", "roma"),
   ("carmen", "carmina"), ("corpus", "corpuses"), ("opus", "opuses"), ("genus", "genera"),
   ("mythos", "mythoi"), ("penis", "penises"), ("testis", "testes"), ("atlas", "atlases"),
   ("yes", "yeses")]

/-- Singulars that no rule produces. -/
def irregularSingulars : List (Word × Word) := pairList
  [("children", "child"), ("loaves", "loaf"), ("monies", "money"), ("mongooses", "mongoose"),
   ("oxen", "ox"), ("graffiti", "graffito"), ("trilbys", "trilby"), ("numina", "numen"),
   ("atmas", "atman"), ("sabretooths", "sabretooth"), ("sabertooths", "sabertooth"),
   ("lowlifes", "lowlife"), ("flatfoots", "flatfoot"), ("tenderfoots", "tenderfoot"),
   ("romanies", "romany"), ("jerries", "jerry"), ("maries", "mary"), ("talouses", "talouse"),
   ("roma", "rom"), ("carmina", "carmen"), ("genera", "genus"), ("mythoi", "mythos"),
   ("testes", "testis"), ("yeses", "yes"), ("chilis", "chili"), ("chilies", "chili"),
   ("brothers", "brother"), ("brethren", "brother"), ("infinities", "infinity"),
   ("infinity", "infinity"), ("lores", "lore"), ("lore", "lore"), ("hoofs", "hoof"),
   ("hooves", "hoof"), ("beefs", "beef"), ("beeves", "beef"), ("thiefs", "thief"),
   ("thieves", "thief"), ("cows", "cow"), ("kine", "cow"), ("octopuses", "octopus"),
   ("octopodes", "octopus"), ("genies", "genie"), ("genii", "genie"), ("ganglions", "ganglion"),
   ("ganglia", "ganglion"), ("turfs", "turf"), ("turves", "turf"), ("occiputs", "occiput"),
   ("occipita", "occiput"), ("corpuses", "corpus"), ("corpora", "corpus"), ("opuses", "opus"),
   ("opera", "opus"), ("penises", "penis"), ("penes", "penis"), ("atlases", "atlas"),
   ("atlantes", "atlas")]

/-- Plurals of pronouns. -/
def pronounPlurals : List (Word × Word) := pairList
  [("me", "us"), ("myself", "ourselves"), ("you", "you"), ("yourself", "yourselves"),
   ("her", "them"), ("herself", "themselves"), ("him", "them"), ("himself", "themselves"),
   ("it", "they"), ("itself", "themselves"), ("them", "them"), ("themself", "themselves"),
   ("i", "we"), ("she", "they"), ("he", "they"), ("they", "they"), ("mine", "ours"),
   ("yours", "yours"), ("hers", "theirs"), ("his", "theirs"), ("its", "theirs"),
   ("theirs", "theirs")]

/-- Singulars of pronouns. -/
def pronounSingulars : List (Word × Word) := pairList
  [("we", "I"), ("ourselves", "myself"), ("you", "you"), ("yourselves", "yourself"),
   ("they", "it"), ("themselves", "itself"), ("ours", "mine"), ("yours", "yours"),
   ("theirs", "its"), ("us", "me"), ("them", "it")]

/-! ## Compounds -/

/-- Words that may stand between the hyphens of a compound such as `mother-in-law`. -/
def prepositions : List Word := wordList
  ["about", "above", "across", "after", "among", "around", "at", "athwart", "before", "behind",
   "below", "beneath", "beside", "besides", "between", "betwixt", "beyond", "but", "by",
   "during", "except", "for", "from", "in", "into", "near", "of", "off", "on", "onto", "out",
   "over", "since", "till", "to", "under", "until", "unto", "upon", "with", "de", "du", "da"]

/-! ## Families of nouns -/

/-- Endings of nouns in `-man` that take a plain `-s`. -/
def manMans : List Word := wordList
  ["ataman", "caiman", "cayman", "ceriman", "desman", "dolman", "farman", "harman", "hetman",
   "human", "leman", "ottoman", "shaman", "talisman"]

/-- Nouns in `-louse` that become `-lice`. -/
def lice : List Word := wordList
  ["booklouse", "grapelouse", "louse", "woodlouse"]

/-- Endings of nouns in `-ch` that take a plain `-s`. -/
def chChs : List Word := wordList
  ["czech", "eunuch", "stomach"]

/-- Endings of nouns in `-ex` with a plural in `-ices`. -/
def exIces : List Word := wordList
  ["codex", "murex", "silex"]

/-- Endings of nouns in `-ix` with a plural in `-ices`. -/
def ixIces : List Word := wordList
  ["radix", "helix"]

/-- Endings of nouns in `-um` with a plural in `-a`. -/
def umA : List Word := wordList
  ["bacterium", "agendum", "desideratum", "erratum", "stratum", "datum", "ovum", "extremum",
   "candelabrum"]

/-- Endings of nouns in `-us` with a plural in `-i`. -/
def usI : List Word := wordList
  ["alumnus", "alveolus", "bacillus", "bronchus", "locus", "nucleus", "stimulus", "meniscus",
   "sarcophagus"]

/-- Endings of nouns in `-on` with a plural in `-a`. -/
def onA : List Word := wordList
  ["criterion", "perihelion", "aphelion", "phenomenon", "prolegomenon", "noumenon", "organon",
   "asyndeton", "hyperbaton"]

/-- Endings of nouns in `-a` with a plural in `-ae`. -/
def aAe : List Word := wordList
  ["alumna", "alga", "vertebra", "persona", "vita"]

/-- Nouns in `-us` that have no other singular. -/
def usUs : List Word := wordList
  ["status", "apparatus", "prospectus", "sinus", "hiatus", "impetus", "plexus"]

/-- Singular nouns in `-s` that take `-es`. -/
def singularS : List Word := wordList
  ["acropolis", "aegis", "alias", "asbestos", "bathos", "bias", "bronchitis", "bursitis",
   "caddis", "cannabis", "canvas", "chaos", "cosmos", "dais", "digitalis", "epidermis", "ethos",
   "eyas", "gas", "glottis", "hubris", "ibis", "lens", "mantis", "marquis", "metropolis",
   "pathos", "pelvis", "polis", "rhinoceros", "sassafras", "trellis", "ephemeris", "iris",
   "clitoris", "chrysalis", "epididymis"]

/-- Endings of singular nouns in `-s` that take `-es`. -/
def singularSEndings : List Word := wordList
  ["ss", "us", "itis"]

/-- Words in `-o` that take a plain `-s`. -/
def oOs : List Word := wordList
  ["ado", "oto"]

/-- Endings of nouns in `-o` that take a plain `-s`. -/
def oOsEndings : List Word := wordList
  ["aficionado", "aggro", "albino", "allegro", "ammo", "archipelago", "armadillo", "auto",
   "avocado", "bimbo", "bingo", "bolero", "bongo", "burro", "canto", "cappuccino", "casino",
   "cello", "cilantro", "cochito", "coco", "commando", "concertino", "contango", "credo",
   "crescendo", "cyano", "demo", "ditto", "dynamo", "embryo", "espresso", "euro", "falsetto",
   "fiasco", "flamenco", "furioso", "generalissimo", "ghetto", "gigolo", "gizmo", "gringo",
   "guano", "gumbo", "gyro", "hairdo", "hippo", "impetigo", "inferno", "info", "intermezzo",
   "intertrigo", "jumbo", "junto", "kilo", "libero", "libido", "libretto", "lido", "limbo",
   "limo", "lineno", "lingo", "lino", "livedo", "loco", "logo", "lumbago", "macho", "macro",
   "mafioso", "magneto", "magnifico", "manifesto", "medico", "memo", "metro", "micro", "mono",
   "myo", "neutrino", "octavo", "oregano", "panto", "pedalo", "photo", "pimento", "pinto",
   "pleco", "pogo", "polo", "poncho", "pro", "psycho", "pueblo", "quarto", "repo", "rhino",
   "risotto", "rococo", "rondo", "saddo", "sago", "salvo", "scherzando", "scherzo", "silo",
   "sirocco", "sombrero", "staccato", "sterno", "stucco", "stylo", "sumo", "techno", "terrazzo",
   "testudo", "timpano", "tiro", "tobacco", "torero", "torso", "tremolo", "typo", "tyro", "ufo",
   "vaquero", "vermicello", "verso", "vibrato", "violoncello", "weirdo", "yo-yo", "zero",
   "solo", "soprano", "basso", "alto", "contralto", "tempo", "piano", "virtuoso"]

/-- Plurals in `-uses` of nouns in `-use`. -/
def usesUse : List Word := wordList
  ["abuses", "applauses", "blouses", "carouses", "causes", "chartreuses", "clauses", "contuses",
   "douses", "excuses", "fuses", "grouses", "hypotenuses", "masseuses", "menopauses", "misuses",
   "muses", "overuses", "pauses", "peruses", "profuses", "recluses", "reuses", "ruses",
   "souses", "spouses", "suffuses", "transfuses", "uses"]

/-- Plurals in `-ies` of nouns in `-ie`. -/
def iesIe : List Word := wordList
  ["aeries", "baggies", "belies", "biggies", "birdies", "bogies", "bonnies", "boogies",
   "bookies", "bourgeoisies", "brownies", "budgies", "caddies", "calories", "camaraderies",
   "cockamamies", "collies", "cookies", "coolies", "cooties", "coteries", "crappies", "curies",
   "cutesies", "dogies", "eyries", "floozies", "footsies", "freebies", "genies", "goalies",
   "groupies", "hies", "jalousies", "junkies", "kiddies", "laddies", "lassies", "lies",
   "lingeries", "magpies", "menageries", "mommies", "movies", "neckties", "newbies", "nighties",
   "oldies", "organdies", "overlies", "pies", "pinkies", "pixies", "potpies", "prairies",
   "quickies", "reveries", "rookies", "rotisseries", "softies", "sorties", "species", "stymies",
   "sweeties", "ties", "underlies", "unties", "veggies", "vies", "yuppies", "zombies"]

/-- Plurals in `-oes` of nouns in `-oe`. -/
def oesOe : List Word := wordList
  ["aloes", "backhoes", "canoes", "does", "floes", "foes", "hoes", "mistletoes", "oboes",
   "pekoes", "roes", "sloes", "throes", "tiptoes", "toes", "woes"]

/-- Plurals in `-sses` of nouns in `-sse`. -/
def ssesSse : List Word := wordList
  ["bouillabaisses", "crevasses", "demitasses", "impasses", "mousses", "posses"]

/-- Plurals in `-zzes` of nouns in `-zz`. -/
def zzesZz : List Word := wordList
  ["buzzes", "fizzes", "frizzes", "razzes"]

/-- Plurals in `-ches` of nouns in `-che`. -/
def chesChe : List Word := wordList
  ["aches", "avalanches", "backaches", "bellyaches", "caches", "cloches", "creches", "douches",
   "earaches", "fiches", "headaches", "heartaches", "microfiches", "niches", "pastiches",
   "psyches", "quiches", "stomachaches", "toothaches", "tranches"]

/-- Plurals in `-xes` of nouns in `-xe`. -/
def xesXe : List Word := wordList
  ["annexes", "axes", "deluxes", "pickaxes"]

/-- Plurals in `-ves` of nouns in `-ve`. -/
def vesVe : List Word := wordList
  ["interweaves", "weaves", "olives", "bivalves", "dissolves", "resolves", "salves", "twelves",
   "valves"]

/-- Plurals in `-es` of nouns in `-is`. -/
def esIs : List Word := wordList
  ["amanuenses", "amniocenteses", "analyses", "antitheses", "apotheoses", "arterioscleroses",
   "atheroscleroses", "axes", "catalyses", "catharses", "chasses", "cirrhoses", "cocces",
   "crises", "diagnoses", "dialyses", "diereses", "electrolyses", "emphases", "exegeses",
   "geneses", "halitoses", "hydrolyses", "hypnoses", "hypotheses", "hystereses",
   "metamorphoses", "metastases", "misdiagnoses", "mitoses", "mononucleoses", "narcoses",
   "necroses", "nemeses", "neuroses", "oases", "osmoses", "osteoporoses", "paralyses",
   "parentheses", "parthenogeneses", "periphrases", "photosyntheses", "probosces", "prognoses",
   "prophylaxes", "prostheses", "preces", "psoriases", "psychoanalyses", "psychokineses",
   "psychoses", "scleroses", "scolioses", "sepses", "silicoses", "symbioses", "synopses",
   "syntheses", "taxes", "telekineses", "theses", "thromboses", "tuberculoses", "urinalyses"]

end EntitySchema.Inflection
