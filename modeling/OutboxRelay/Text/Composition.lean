import OutboxRelay.Text.Mark

/-!
# Composition

A letter with its marks can be written as one character or as several.  Here each text
gets the form with the fewest characters, so that two texts that mean the same are the
same.

**Algorithm.**

1. Take every character apart.
2. Sort the marks behind a letter by their classes; marks of one class keep their order.
3. Put each mark together with the letter before it, if the two make one character and
   nothing between them is in the way.
-/

namespace OutboxRelay
namespace Text

/--
The table of compositions: a character that comes second, the characters that it can
follow, and what they make with it, in the same order.
-/
def compositions : List (Nat × String × String) :=
  [(0x0300, "aeinouwyâêôüăēōơưαεηιουωϊϋеиἀἁἐἑἠἡἰἱὀὁὐὑὠὡ",
    "àèìǹòùẁỳầềồǜằḕṑờừὰὲὴὶὸὺὼῒῢѐѝἂἃἒἓἢἣἲἳὂὃὒὓὢὣ"),
   (0x0301, "acegiklmnoprsuwyzâåæçêïôõøüăēōũơưαεηιουωϊϋгкἀἁἐἑἠἡἰἱὀὁὐὑὠὡ",
    "áćéǵíḱĺḿńóṕŕśúẃýźấǻǽḉếḯốṍǿǘắḗṓṹớứάέήίόύώΐΰѓќἄἅἔἕἤἥἴἵὄὅὔὕὤὥ"),
   (0x0302, "aceghijosuwyzạẹọ", "âĉêĝĥîĵôŝûŵŷẑậệộ"),
   (0x0303, "aeinouvyâêôăơư", "ãẽĩñõũṽỹẫễỗẵỡữ"),
   (0x0304, "aegiouyäæõöüǫȧȯαιυиуḷṛ", "āēḡīōūȳǟǣȭȫǖǭǡȱᾱῑῡӣӯḹṝ"),
   (0x0306, "aegiouȩαιυаежиуạ", "ăĕğĭŏŭḝᾰῐῠӑӗӂйўặ"),
   (0x0307, "abcdefghmnoprstwxyzśšṣ𐗒𐗚", "ȧḃċḋėḟġḣṁṅȯṗṙṡṫẇẋẏżṥṧṩ𐗉𐗤"),
   (0x0308, "aehiotuwxyõūιυаежзиоучыэіәө", "äëḧïöẗüẅẍÿṏṻϊϋӓёӝӟӥӧӱӵӹӭїӛӫ"),
   (0x0309, "aeiouyâêôăơư", "ảẻỉỏủỷẩểổẳởử"), (0x030A, "auwy", "åůẘẙ"),
   (0x030B, "ouу", "őűӳ"), (0x030C, "acdeghijklnorstuzüʒ", "ǎčďěǧȟǐǰǩľňǒřšťǔžǚǯ"),
   (0x030F, "aeioruѵ", "ȁȅȉȍȑȕѷ"), (0x0311, "aeioru", "ȃȇȋȏȓȗ"),
   (0x0313, "αεηιορυω", "ἀἐἠἰὀῤὐὠ"), (0x0314, "αεηιορυω", "ἁἑἡἱὁῥὑὡ"),
   (0x031B, "ou", "ơư"), (0x0323, "abdehiklmnorstuvwyzơư", "ạḅḍẹḥịḳḷṃṇọṛṣṭụṿẉỵẓợự"),
   (0x0324, "u", "ṳ"), (0x0325, "a", "ḁ"), (0x0326, "st", "șț"),
   (0x0327, "cdeghklnrst", "çḑȩģḩķļņŗşţ"), (0x0328, "aeiou", "ąęįǫų"),
   (0x032D, "delntu", "ḓḙḽṋṱṷ"), (0x032E, "h", "ḫ"), (0x0330, "eiu", "ḛḭṵ"),
   (0x0331, "bdhklnrtz", "ḇḏẖḵḻṉṟṯẕ"),
   (0x0338, "<=>←→↔⇐⇒⇔∃∈∋∣∥∼≃≅≈≍≡≤≥≲≳≶≷≺≻≼≽⊂⊃⊆⊇⊑⊒⊢⊨⊩⊫⊲⊳⊴⊵",
    "≮≠≯↚↛↮⇍⇏⇎∄∉∌∤∦≁≄≇≉≭≢≰≱≴≵≸≹⊀⊁⋠⋡⊄⊅⊈⊉⋢⋣⊬⊭⊮⊯⋪⋫⋬⋭"),
   (0x0342, "αηιυωϊϋἀἁἠἡἰἱὐὑὠὡ", "ᾶῆῖῦῶῗῧἆἇἦἧἶἷὖὗὦὧ"), (0x0653, "\u0627", "\u0622"),
   (0x0654, "\u0627\u0648\u064a\u06c1\u06d2\u06d5", "\u0623\u0624\u0626\u06c2\u06d3\u06c0"),
   (0x0655, "\u0627", "\u0625"), (0x093C, "नरळ", "ऩऱऴ"), (0x09BE, "\u09c7", "\u09cb"),
   (0x09D7, "\u09c7", "\u09cc"), (0x0B3E, "\u0b47", "\u0b4b"),
   (0x0B56, "\u0b47", "\u0b48"), (0x0B57, "\u0b47", "\u0b4c"),
   (0x0BBE, "\u0bc6\u0bc7", "\u0bca\u0bcb"), (0x0BD7, "ஒ\u0bc6", "ஔ\u0bcc"),
   (0x0C56, "\u0c46", "\u0c48"), (0x0CC2, "\u0cc6", "\u0cca"),
   (0x0CD5, "\u0cbf\u0cc6\u0cca", "\u0cc0\u0cc7\u0ccb"), (0x0CD6, "\u0cc6", "\u0cc8"),
   (0x0D3E, "\u0d46\u0d47", "\u0d4a\u0d4b"), (0x0D57, "\u0d46", "\u0d4c"),
   (0x0DCA, "\u0dd9\u0ddc", "\u0dda\u0ddd"), (0x0DCF, "\u0dd9", "\u0ddc"),
   (0x0DDF, "\u0dd9", "\u0dde"), (0x102E, "ဥ", "ဦ"),
   (0x1B35, "ᬅᬇᬉᬋᬍᬑ\u1b3a\u1b3c\u1b3e\u1b3f\u1b42", "ᬆᬈᬊᬌᬎᬒ\u1b3b\u1b3d\u1b40\u1b41\u1b43"),
   (0x3099, "うかきくけこさしすせそたちつてとはひふへほゝウカキクケコサシスセソタチツテトハヒフヘホワヰヱヲヽ",
    "ゔがぎぐげござじずぜぞだぢづでどばびぶべぼゞヴガギグゲゴザジズゼゾダヂヅデドバビブベボヷヸヹヺヾ"),
   (0x309A, "はひふへほハヒフヘホ", "ぱぴぷぺぽパピプペポ"),
   (0x110BA, "𑂙𑂛𑂥", "𑂚𑂜𑂫"), (0x11127, "𑄱𑄲", "𑄮𑄯"),
   (0x1133E, "𑍇", "𑍋"), (0x11357, "𑍇", "𑍌"),
   (0x113B8, "𑏂", "𑏇"), (0x113BB, "𑎄", "𑎅"),
   (0x113C2, "𑏂𑎋", "𑏅𑎎"),
   (0x113C9, "𑎂𑎐𑏂", "𑎃𑎑𑏈"),
   (0x114B0, "𑒹", "𑒼"), (0x114BA, "𑒹", "𑒻"),
   (0x114BD, "𑒹", "𑒾"), (0x115AF, "𑖸𑖹", "𑖺𑖻"),
   (0x11930, "𑤵", "𑤸"),
   (0x1611E, "𖄞", "𖄡"),
   (0x1611F, "𖄡𖄢𖄩𖄞", "𖄦𖄧𖄤𖄣"),
   (0x16120, "𖄡𖄞", "𖄨𖄥"), (0x16129, "𖄞", "𖄢"),
   (0x16D67, "𖵧𖵣𖵩", "𖵨𖵩𖵪")]

/-! ## Syllables made of two or three parts -/

/-- The first of the syllables. -/
def syllableBase : Nat := 0xAC00

/-- How many syllables there are. -/
def syllableCount : Nat := 19 * 21 * 28

/-- The syllable that two characters make: two parts, or a syllable and its last part. -/
def syllable? (a b : Char) : Option Char :=
  let lead := a.toNat - 0x1100
  let vowel := b.toNat - 0x1161
  let index := a.toNat - syllableBase
  let tail := b.toNat - 0x11A7
  if 0x1100 ≤ a.toNat && lead < 19 && 0x1161 ≤ b.toNat && vowel < 21 then
    some (Char.ofNat (syllableBase + (lead * 21 + vowel) * 28))
  else if syllableBase ≤ a.toNat && index < syllableCount && index % 28 == 0
      && 0x11A7 < b.toNat && tail < 28 then
    some (Char.ofNat (a.toNat + tail))
  else
    none

/-- The two parts of a syllable. -/
def syllableParts? (c : Char) : Option (Char × Char) :=
  let index := c.toNat - syllableBase
  if c.toNat < syllableBase || syllableCount ≤ index then
    none
  else if index % 28 = 0 then
    some (Char.ofNat (0x1100 + index / 588), Char.ofNat (0x1161 + index / 28 % 21))
  else
    some (Char.ofNat (c.toNat - index % 28), Char.ofNat (0x11A7 + index % 28))

/-! ## Pairs -/

/-- The character at the place that another one has in a first text, in a second text. -/
def counterpart? (c : Char) (here there : String) : Option Char :=
  (here.toList.idxOf? c).bind fun place => there.toList[place]?

/-- The character that two characters make. -/
def pair? (a b : Char) : Option Char :=
  (syllable? a b).or do
    let (_, firsts, wholes) ← compositions.find? fun (second, _, _) => second = b.toNat
    counterpart? a firsts wholes

/-- The two characters that a character is made of. -/
def parts? (c : Char) : Option (Char × Char) :=
  (syllableParts? c).or (compositions.findSome? fun (second, firsts, wholes) =>
    (counterpart? c wholes firsts).map fun first => (first, Char.ofNat second))

/-! ## Texts -/

/-- The depth to which characters are made of characters. -/
def partsDepth : Nat := 4

/-- The characters that a character is made of, taken apart so many times. -/
def apart : Nat → Char → List Char
  | 0, c => [c]
  | depth + 1, c =>
      match parts? c with
      | some (first, second) => apart depth first ++ [second]
      | none => [c]

/-- Puts a mark behind the marks whose class is not above its own. -/
def insertMark (c : Char) : List Char → List Char
  | [] => [c]
  | d :: rest =>
      if combiningClass d ≤ combiningClass c then d :: insertMark c rest
      else c :: d :: rest

/-- A row of characters behind some sorted marks, with all marks sorted. -/
def sortedFrom (marks : List Char) : List Char → List Char
  | [] => marks
  | c :: rest =>
      if combiningClass c = 0 then marks ++ c :: sortedFrom [] rest
      else sortedFrom (insertMark c marks) rest

/-- Whether some marks, the last one first, let a character through to what they follow. -/
def letThrough (marks : List Char) (c : Char) : Bool :=
  match marks with
  | [] => true
  | mark :: _ => combiningClass mark < combiningClass c

/--
A row of characters behind a first one and some marks that were not put together with
it, the last one first.
-/
def joinedFrom (first : Char) (marks : List Char) : List Char → List Char
  | [] => first :: marks.reverse
  | c :: rest =>
      match if letThrough marks c then pair? first c else none with
      | some whole => joinedFrom whole marks rest
      | none =>
          if combiningClass c = 0 then first :: marks.reverse ++ joinedFrom c [] rest
          else joinedFrom first (c :: marks) rest

/-- A row of characters with all that can be put together. -/
def joined : List Char → List Char
  | [] => []
  | c :: rest =>
      if combiningClass c = 0 then joinedFrom c [] rest else c :: joined rest

/-- The form of a text with the fewest characters. -/
def composed (chars : List Char) : List Char :=
  joined (sortedFrom [] (chars.flatMap (apart partsDepth)))

end Text
end OutboxRelay
