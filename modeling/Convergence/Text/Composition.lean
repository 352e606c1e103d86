import Convergence.Text.Mark

/-! The composed form of a text: a letter and its marks are one character where there is
one, and marks that are left stand in the order of their classes. Texts that look the
same on principle have one composed form. -/
namespace Convergence.Text

/-! ### What a mark makes of a character -/

/-- For a mark, characters each followed by what it becomes with the mark. -/
def composites : List (Nat × String) :=
  [(0x300, "AÀEÈIÌNǸOÒUÙWẀYỲaàeèiìnǹoòuùwẁyỳ¨῭ÂẦÊỀÔỒÜǛâầêềôồüǜĂẰăằĒḔēḕŌṐōṑƠỜơờƯỪưừΑᾺΕῈΗῊΙῚΟῸ"),
   (0x300, "ΥῪΩῺαὰεὲηὴιὶοὸυὺωὼϊῒϋῢЕЀИЍеѐиѝἀἂἁἃἈἊἉἋἐἒἑἓἘἚἙἛἠἢἡἣἨἪἩἫἰἲἱἳἸἺἹἻὀὂὁὃὈὊὉὋὐὒὑὓὙὛὠὢὡὣ"),
   (0x300, "ὨὪὩὫ᾿῍῾῝"),
   (0x301, "AÁCĆEÉGǴIÍKḰLĹMḾNŃOÓPṔRŔSŚUÚWẂYÝZŹaácćeégǵiíkḱlĺmḿnńoópṕrŕsśuúwẃyýzź¨΅ÂẤÅǺÆǼÇḈÊẾ"),
   (0x301, "ÏḮÔỐÕṌØǾÜǗâấåǻæǽçḉêếïḯôốõṍøǿüǘĂẮăắĒḖēḗŌṒōṓŨṸũṹƠỚơớƯỨưứΑΆΕΈΗΉΙΊΟΌΥΎΩΏαάεέηήιίοόυύ"),
   (0x301, "ωώϊΐϋΰϒϓГЃКЌгѓкќἀἄἁἅἈἌἉἍἐἔἑἕἘἜἙἝἠἤἡἥἨἬἩἭἰἴἱἵἸἼἹἽὀὄὁὅὈὌὉὍὐὔὑὕὙὝὠὤὡὥὨὬὩὭ᾿῎῾῞"),
   (0x302, "AÂCĈEÊGĜHĤIÎJĴOÔSŜUÛWŴYŶZẐaâcĉeêgĝhĥiîjĵoôsŝuûwŵyŷzẑẠẬạậẸỆẹệỌỘọộ"),
   (0x303, "AÃEẼIĨNÑOÕUŨVṼYỸaãeẽiĩnñoõuũvṽyỹÂẪÊỄÔỖâẫêễôỗĂẴăẵƠỠơỡƯỮưữ"),
   (0x304, "AĀEĒGḠIĪOŌUŪYȲaāeēgḡiīoōuūyȳÄǞÆǢÕȬÖȪÜǕäǟæǣõȭöȫüǖǪǬǫǭȦǠȧǡȮȰȯȱΑᾹΙῙΥῩαᾱιῑυῡИӢУӮиӣуӯ"),
   (0x304, "ḶḸḷḹṚṜṛṝ"), (0x306, "AĂEĔGĞIĬOŎUŬaăeĕgğiĭoŏuŭȨḜȩḝΑᾸΙῘΥῨαᾰιῐυῠАӐЕӖЖӁИЙУЎаӑеӗжӂийуўẠẶạặ"),
   (0x307, "AȦBḂCĊDḊEĖFḞGĠHḢIİMṀNṄOȮPṖRṘSṠTṪWẆXẊYẎZŻaȧbḃcċdḋeėfḟgġhḣmṁnṅoȯpṗrṙsṡtṫwẇxẋyẏzżŚṤ"),
   (0x307, "śṥŠṦšṧſẛṢṨṣṩ"),
   (0x308, "AÄEËHḦIÏOÖUÜWẄXẌYŸaäeëhḧiïoötẗuüwẅxẍyÿÕṎõṏŪṺūṻΙΪΥΫιϊυϋϒϔІЇАӒЕЁЖӜЗӞИӤОӦУӰЧӴЫӸЭӬаӓ"),
   (0x308, "еёжӝзӟиӥоӧуӱчӵыӹэӭіїӘӚәӛӨӪөӫ"),
   (0x309, "AẢEẺIỈOỎUỦYỶaảeẻiỉoỏuủyỷÂẨÊỂÔỔâẩêểôổĂẲăẳƠỞơởƯỬưử"), (0x30A, "AÅUŮaåuůwẘyẙ"),
   (0x30B, "OŐUŰoőuűУӲуӳ"),
   (0x30C, "AǍCČDĎEĚGǦHȞIǏKǨLĽNŇOǑRŘSŠTŤUǓZŽaǎcčdďeěgǧhȟiǐjǰkǩlľnňoǒrřsštťuǔzžÜǙüǚƷǮʒǯ"),
   (0x30F, "AȀEȄIȈOȌRȐUȔaȁeȅiȉoȍrȑuȕѴѶѵѷ"), (0x311, "AȂEȆIȊOȎRȒUȖaȃeȇiȋoȏrȓuȗ"),
   (0x313, "ΑἈΕἘΗἨΙἸΟὈΩὨαἀεἐηἠιἰοὀρῤυὐωὠ"), (0x314, "ΑἉΕἙΗἩΙἹΟὉΡῬΥὙΩὩαἁεἑηἡιἱοὁρῥυὑωὡ"),
   (0x31B, "OƠUƯoơuư"),
   (0x323, "AẠBḄDḌEẸHḤIỊKḲLḶMṂNṆOỌRṚSṢTṬUỤVṾWẈYỴZẒaạbḅdḍeẹhḥiịkḳlḷmṃnṇoọrṛsṣtṭuụvṿwẉyỵzẓƠỢơợ"),
   (0x323, "ƯỰưự"), (0x324, "UṲuṳ"), (0x325, "AḀaḁ"), (0x326, "SȘTȚsștț"),
   (0x327, "CÇDḐEȨGĢHḨKĶLĻNŅRŖSŞTŢcçdḑeȩgģhḩkķlļnņrŗsştţ"), (0x328, "AĄEĘIĮOǪUŲaąeęiįoǫuų"),
   (0x32D, "DḒEḘLḼNṊTṰUṶdḓeḙlḽnṋtṱuṷ"), (0x32E, "HḪhḫ"), (0x330, "EḚIḬUṴeḛiḭuṵ"),
   (0x331, "BḆDḎKḴLḺNṈRṞTṮZẔbḇdḏhẖkḵlḻnṉrṟtṯzẕ"),
   (0x338, "<≮=≠>≯←↚→↛↔↮⇐⇍⇒⇏⇔⇎∃∄∈∉∋∌∣∤∥∦∼≁≃≄≅≇≈≉≍≭≡≢≤≰≥≱≲≴≳≵≶≸≷≹≺⊀≻⊁≼⋠≽⋡⊂⊄⊃⊅⊆⊈⊇⊉⊑⋢⊒⋣⊢⊬⊨⊭⊩⊮⊫⊯"),
   (0x338, "⊲⋪⊳⋫⊴⋬⊵⋭"), (0x342, "¨῁αᾶηῆιῖυῦωῶϊῗϋῧἀἆἁἇἈἎἉἏἠἦἡἧἨἮἩἯἰἶἱἷἸἾἹἿὐὖὑὗὙὟὠὦὡὧὨὮὩὯ᾿῏῾῟"),
   (0x345, "ΑᾼΗῌΩῼάᾴήῄαᾳηῃωῳώῴἀᾀἁᾁἂᾂἃᾃἄᾄἅᾅἆᾆἇᾇἈᾈἉᾉἊᾊἋᾋἌᾌἍᾍἎᾎἏᾏἠᾐἡᾑἢᾒἣᾓἤᾔἥᾕἦᾖἧᾗἨᾘἩᾙἪᾚἫᾛἬᾜἭᾝἮᾞ"),
   (0x345, "ἯᾟὠᾠὡᾡὢᾢὣᾣὤᾤὥᾥὦᾦὧᾧὨᾨὩᾩὪᾪὫᾫὬᾬὭᾭὮᾮὯᾯὰᾲὴῂὼῲᾶᾷῆῇῶῷ"), (0x653, "\u0627\u0622"),
   (0x654, "\u0627\u0623\u0648\u0624\u064a\u0626\u06c1\u06c2\u06d2\u06d3\u06d5\u06c0"),
   (0x655, "\u0627\u0625"), (0x93C, "नऩरऱळऴ"), (0x9BE, "\u09c7\u09cb"), (0x9D7, "\u09c7\u09cc"),
   (0xB3E, "\u0b47\u0b4b"), (0xB56, "\u0b47\u0b48"), (0xB57, "\u0b47\u0b4c"),
   (0xBBE, "\u0bc6\u0bca\u0bc7\u0bcb"), (0xBD7, "ஒஔ\u0bc6\u0bcc"), (0xC56, "\u0c46\u0c48"),
   (0xCC2, "\u0cc6\u0cca"), (0xCD5, "\u0cbf\u0cc0\u0cc6\u0cc7\u0cca\u0ccb"),
   (0xCD6, "\u0cc6\u0cc8"), (0xD3E, "\u0d46\u0d4a\u0d47\u0d4b"), (0xD57, "\u0d46\u0d4c"),
   (0xDCA, "\u0dd9\u0dda\u0ddc\u0ddd"), (0xDCF, "\u0dd9\u0ddc"), (0xDDF, "\u0dd9\u0dde"),
   (0x102E, "ဥဦ"),
   (0x1B35, "ᬅᬆᬇᬈᬉᬊᬋᬌᬍᬎᬑᬒ\u1b3a\u1b3b\u1b3c\u1b3d\u1b3e\u1b40\u1b3f\u1b41\u1b42\u1b43"),
   (0x3099, "うゔかがきぎくぐけげこごさざしじすずせぜそぞただちぢつづてでとどはばひびふぶへべほぼゝゞウヴカガキギクグケゲコゴサザシジスズセゼソゾタダチヂツヅテデトドハバヒビ"),
   (0x3099, "フブヘベホボワヷヰヸヱヹヲヺヽヾ"), (0x309A, "はぱひぴふぷへぺほぽハパヒピフプヘペホポ"), (0x110BA, "𑂙𑂚𑂛𑂜𑂥𑂫"),
   (0x11127, "𑄱𑄮𑄲𑄯"), (0x1133E, "𑍇𑍋"), (0x11357, "𑍇𑍌"), (0x114B0, "𑒹𑒼"), (0x114BA, "𑒹𑒻"),
   (0x114BD, "𑒹𑒾"), (0x115AF, "𑖸𑖺𑖹𑖻"), (0x11930, "𑤵𑤸")]

def pairs : List α → List (α × α)
  | a :: b :: rest => (a, b) :: pairs rest
  | _ => []

def compositions : List (Char × Char × Char) :=
  composites.flatMap fun (mark, chars) =>
    (pairs chars.toList).map fun (base, composite) => (base, Char.ofNat mark, composite)

/-! ### Korean syllables

A syllable is a lead, a vowel and perhaps a tail; its code follows from their codes. -/

def leadBase : Nat := 0x1100

def vowelBase : Nat := 0x1161

/-- The code before that of the first tail, so that zero stands for none. -/
def tailBase : Nat := 0x11A7

def syllableBase : Nat := 0xAC00

def leadCount : Nat := 19

def vowelCount : Nat := 21

def tailCount : Nat := 28

def placeIn? (base count : Nat) (c : Char) : Option Nat :=
  if base ≤ c.toNat && c.toNat < base + count then some (c.toNat - base) else none

def syllable? (a b : Char) : Option Char :=
  match placeIn? leadBase leadCount a, placeIn? vowelBase vowelCount b with
  | some lead, some vowel =>
    some (Char.ofNat (syllableBase + (lead * vowelCount + vowel) * tailCount))
  | _, _ =>
    match placeIn? syllableBase (leadCount * vowelCount * tailCount) a,
      placeIn? tailBase tailCount b with
    | some place, some tail =>
      if place % tailCount = 0 && tail ≠ 0 then some (Char.ofNat (a.toNat + tail)) else none
    | _, _ => none

def syllableParts? (c : Char) : Option (List Char) :=
  (placeIn? syllableBase (leadCount * vowelCount * tailCount) c).map fun place =>
    let lead := Char.ofNat (leadBase + place / (vowelCount * tailCount))
    let vowel := Char.ofNat (vowelBase + place / tailCount % vowelCount)
    if place % tailCount = 0 then [lead, vowel]
    else [lead, vowel, Char.ofNat (tailBase + place % tailCount)]

/-! ### Taking apart -/

/-- The parts of a character; what it is made of may be taken apart `depth` times. -/
def partsOf : Nat → Char → List Char
  | 0, c => [c]
  | depth + 1, c =>
    match compositions.find? fun (_, _, composite) => composite == c with
    | some (base, mark, _) => partsOf depth base ++ [mark]
    | none => [c]

/-- A character in its smallest parts. No letter has more than four marks in it. -/
def parts (c : Char) : List Char :=
  if c.toNat < 0x80 then [c] else (syllableParts? c).getD (partsOf 4 c)

def insertMark (c : Char) (k : Nat) : List (Char × Nat) → List (Char × Nat)
  | [] => [(c, k)]
  | (d, j) :: rest => if k < j then (c, k) :: (d, j) :: rest else (d, j) :: insertMark c k rest

/-- Characters with their classes, the marks in a row in the order of these. `marks` are
those that have been seen since the last character of class zero. -/
def ordered (marks : List (Char × Nat)) : List Char → List (Char × Nat)
  | [] => marks
  | c :: rest =>
    let k := combiningClass c
    if k = 0 then marks ++ (c, 0) :: ordered [] rest else ordered (insertMark c k marks) rest

/-! ### Putting together -/

def composite? (a b : Char) : Option Char :=
  match syllable? a b with
  | some c => some c
  | none => (compositions.find? fun (base, mark, _) => base == a && mark == b).map (·.2.2)

/-- Puts together what follows a character: `marks`, which could not be put together
with it, and the rest. A mark is kept from the character by one of its own class. -/
def composeFrom (base : Char) (marks : List (Char × Nat)) : List (Char × Nat) → List Char
  | [] => base :: marks.map (·.1)
  | (c, k) :: rest =>
    let near := marks.getLast?.all fun (_, j) => j < k
    match if near then composite? base c else none with
    | some composite => composeFrom composite marks rest
    | none =>
      if k = 0 then base :: marks.map (·.1) ++ composeFrom c [] rest
      else composeFrom base (marks ++ [(c, k)]) rest

/-- Marks at the beginning have nothing to be put together with. -/
def composeAll : List (Char × Nat) → List Char
  | [] => []
  | (c, k) :: rest => if k = 0 then composeFrom c [] rest else c :: composeAll rest

def composed (chars : List Char) : List Char := composeAll (ordered [] (chars.flatMap parts))

end Convergence.Text
