import Regex.Unicode.Runs

/-!
# Bidirectional classes

The bidirectional class of every code point.
-/

namespace Regex.Unicode

/-- The classes that decide the direction of text. -/
inductive BidiClass where
  | arabicLetter
  | arabicNumber
  | paragraphSeparator
  | boundaryNeutral
  | commonSeparator
  | europeanNumber
  | europeanSeparator
  | europeanTerminator
  | firstStrongIsolate
  | leftToRight
  | leftToRightEmbedding
  | leftToRightIsolate
  | leftToRightOverride
  | nonspacingMark
  | otherNeutral
  | popDirectionalFormat
  | popDirectionalIsolate
  | rightToLeft
  | rightToLeftEmbedding
  | rightToLeftIsolate
  | rightToLeftOverride
  | segmentSeparator
  | whiteSpace
  deriving DecidableEq, Inhabited

namespace BidiClass

/-- Every class with its short name. -/
def abbreviations : List (String × BidiClass) :=
  [("AL", .arabicLetter), ("AN", .arabicNumber), ("B", .paragraphSeparator),
   ("BN", .boundaryNeutral), ("CS", .commonSeparator), ("EN", .europeanNumber),
   ("ES", .europeanSeparator), ("ET", .europeanTerminator), ("FSI", .firstStrongIsolate),
   ("L", .leftToRight), ("LRE", .leftToRightEmbedding), ("LRI", .leftToRightIsolate),
   ("LRO", .leftToRightOverride), ("NSM", .nonspacingMark), ("ON", .otherNeutral),
   ("PDF", .popDirectionalFormat), ("PDI", .popDirectionalIsolate), ("R", .rightToLeft),
   ("RLE", .rightToLeftEmbedding), ("RLI", .rightToLeftIsolate), ("RLO", .rightToLeftOverride),
   ("S", .segmentSeparator), ("WS", .whiteSpace)]

/-- The classes of all code points in order, each with the length of its run. -/
def text : String := "
  BN9 S B S WS B BN14 B3 S WS ON2 ET3 ON5 ES CS ES CS2 EN10 CS ON6 L26 ON6 L26 ON4 BN6 B BN26 CS
  ON ET4 ON4 L ON2 BN ON2 ET2 EN2 ON L ON3 EN L ON5 L23 ON L31 ON L449 ON2 L7 ON14 L2 ON14 L5
  ON9 L ON17 NSM112 L4 ON2 L8 ON L5 ON2 L ON L110 ON L140 NSM7 L256 ON L2 ON2 ET R NSM45 R NSM R
  NSM2 R NSM2 R NSM R56 AN6 ON2 AL ET2 AL CS AL ON2 NSM11 AL48 NSM21 AN10 ET AN2 AL3 NSM AL101
  NSM7 AN ON NSM6 AL2 NSM2 ON NSM4 AL2 EN10 AL23 NSM AL30 NSM27 AL91 NSM11 AL15 R43 NSM9 R2 ON4
  R3 NSM R24 NSM4 R NSM9 R NSM3 R NSM5 R43 NSM3 R4 AL48 AN2 AL5 NSM9 AL42 NSM24 AN NSM32 L55 NSM
  L NSM L4 NSM8 L4 NSM L3 NSM7 L10 NSM2 L29 NSM L58 NSM L4 NSM4 L8 NSM L20 NSM2 L14 ET2 L7 ET L2
  NSM L2 NSM2 L57 NSM L4 NSM2 L4 NSM2 L2 NSM3 L3 NSM L30 NSM2 L3 NSM L11 NSM2 L57 NSM L4 NSM5 L
  NSM2 L4 NSM L20 NSM2 L13 ET L8 NSM6 L NSM L58 NSM L2 NSM L NSM4 L8 NSM L7 NSM2 L11 NSM2 L30
  NSM L61 NSM L12 NSM L37 ON6 ET ON L5 NSM L3 NSM L55 NSM L NSM3 L5 NSM3 L NSM4 L7 NSM2 L11 NSM2
  L20 ON7 L2 NSM L58 NSM L15 NSM2 L20 NSM2 L28 NSM2 L57 NSM2 L4 NSM4 L8 NSM L20 NSM2 L29 NSM L72
  NSM L7 NSM3 L NSM L90 NSM L2 NSM7 L4 ET L7 NSM8 L98 NSM L2 NSM9 L11 NSM7 L73 NSM2 L27 NSM L
  NSM L NSM ON4 L51 NSM14 L NSM5 L NSM2 L5 NSM11 L NSM36 L9 NSM L102 NSM4 L NSM6 L NSM2 L2 NSM2
  L25 NSM2 L4 NSM3 L16 NSM4 L13 NSM L2 NSM2 L6 NSM L15 NSM L703 NSM3 L48 ON10 L102 ON L639 WS
  L26 ON2 L117 NSM3 L29 NSM2 L30 NSM2 L30 NSM2 L64 NSM2 L NSM7 L8 NSM L2 NSM11 L7 ET L NSM L18
  ON10 L6 ON11 NSM3 BN NSM L117 NSM2 L34 NSM L118 NSM3 L4 NSM2 L9 NSM L6 NSM3 L4 ON L3 ON2 L152
  ON34 L23 NSM2 L2 NSM L58 NSM L NSM7 L NSM L NSM L2 NSM8 L6 NSM10 L2 NSM L48 NSM31 L49 NSM4 L48
  NSM L NSM5 L NSM L5 NSM L40 NSM9 L12 NSM2 L32 NSM4 L2 NSM2 L NSM3 L56 NSM L NSM2 L3 NSM L NSM3
  L58 NSM8 L2 NSM2 L152 NSM3 L NSM13 L NSM7 L4 NSM L6 NSM L3 NSM2 L198 NSM64 L445 ON L ON3 L11
  ON3 L13 ON3 L13 ON3 L13 ON2 L WS11 BN3 L R ON24 WS B LRE RLE PDF LRO RLO CS ET5 ON15 CS ON26
  WS BN6 LRI RLI FSI PDI BN6 EN L3 EN6 ES2 ON3 L EN10 ES2 ON3 L17 ET48 NSM33 L15 ON2 L ON4 L ON2
  L10 ON L ON3 L5 ON6 L ON L ON L ON L4 ET L11 ON2 L4 ON5 L5 ON4 L2 ON16 L41 ON3 L4 ON130 ES ET
  ON290 L69 ON26 L ON148 L22 ON11 L21 ON40 EN20 L78 ON450 L ON339 L256 ON628 L2 ON32 L ON105
  L229 ON6 L4 NSM3 L7 ON7 L127 NSM L96 NSM32 ON94 L34 ON26 L ON89 L12 ON214 L26 ON16 WS ON4 L3
  ON25 L9 NSM4 L2 ON L5 ON2 L5 ON3 L89 NSM2 ON2 L3 ON L90 ON L196 ON38 L9 ON L45 ON2 L49 ON16
  L28 ON3 L50 ON15 L12 ON4 L167 ON4 L99 ON2 L31 ON L6592 ON64 L22160 ON55 L326 ON3 L95 NSM4 ON
  NSM10 ON2 L30 NSM2 L80 NSM2 L14 ON34 L102 ON L121 NSM L3 NSM L4 NSM L25 NSM2 L ON4 NSM L11 ET2
  L58 ON4 L76 NSM2 L26 NSM18 L13 NSM L38 NSM8 L25 NSM11 L46 NSM3 L48 NSM L2 NSM4 L2 NSM2 L39 NSM
  L67 NSM6 L2 NSM2 L2 NSM2 L12 NSM L8 NSM L47 NSM L51 NSM L NSM3 L2 NSM2 L5 NSM2 L NSM L42 NSM2
  L8 NSM L115 ON2 L121 NSM L2 NSM L4 NSM L20271 R NSM R10 ES R38 AL494 ON18 AL127 ON BN32 AL13
  ON3 NSM16 ON10 L6 NSM16 ON32 CS ON CS L ON CS ON9 ET ON2 ES2 ON3 L ON ET2 ON L4 AL143 BN L ON2
  ET3 ON5 ES CS ES CS2 EN10 CS ON6 L26 ON6 L26 ON11 L122 ET2 ON3 ET2 L ON7 L BN9 ON5 BN2 L257 ON
  L62 ON77 L3 ON13 L3 ON L92 NSM L226 NSM EN27 L122 NSM5 L1157 R287 ON R225 NSM3 R NSM2 R5 NSM4
  R40 NSM3 R4 NSM R165 NSM2 R82 ON7 R448 AL36 NSM4 AL8 AN10 AL6 R41 NSM5 R32 ON2 R208 AN31 R44
  NSM2 R19 AL60 NSM4 R48 AL22 NSM11 AL31 R18 NSM4 R122 L NSM L54 NSM15 L11 ON20 L10 NSM L2 NSM2
  L10 NSM3 L49 NSM4 L2 NSM2 L7 NSM L61 NSM3 L36 NSM5 L NSM8 L62 NSM L12 NSM2 L52 NSM9 L10 NSM4
  L2 NSM L95 NSM3 L2 NSM L NSM2 L6 NSM L2 NSM L157 NSM L3 NSM8 L21 NSM2 L57 NSM2 L3 NSM L37 NSM7
  L3 NSM5 L70 NSM6 L13 NSM L NSM L NSM L14 NSM2 L85 NSM8 L2 NSM3 L NSM L23 NSM L84 NSM6 L NSM L4
  NSM2 L NSM2 L238 NSM4 L6 NSM2 L NSM2 L27 NSM2 L85 NSM8 L2 NSM L NSM2 L31 ON13 L62 NSM L NSM L2
  NSM6 L NSM L101 NSM3 L2 NSM4 L NSM5 L259 NSM9 L NSM2 L256 NSM2 L NSM L4 NSM L144 NSM4 L2 NSM2
  L4 NSM L32 NSM6 L2 NSM2 L40 NSM6 L2 NSM4 L8 NSM L9 NSM6 L2 NSM3 L46 NSM13 L NSM2 L406 NSM7 L
  NSM6 L84 NSM22 L2 NSM7 L NSM2 L NSM2 L122 NSM6 L3 NSM L NSM2 L NSM7 L NSM L72 NSM2 L3 NSM L
  NSM L347 NSM2 L11 NSM2 L52 NSM5 L5 NSM L NSM L23 NSM L122 ON8 ET4 ON17 L5198 NSM L6 NSM15
  L11464 NSM12 L3 NSM3 L2496 NSM5 L59 NSM7 L1048 NSM L63 NSM4 L79 ON L NSM L19640 NSM2 L BN4
  L3932 ON240 EN10 L6 ON436 L76 NSM46 L2 NSM23 L544 NSM3 L9 BN8 NSM8 L2 NSM7 L30 NSM4 L59 ON2
  L21 ON66 NSM3 ON L186 ON87 L900 ON L57 ON L57 ON L57 ON L57 ON L10 EN50 L512 NSM55 L4 NSM50 L8
  NSM L14 NSM L22 NSM5 L NSM15 L1360 NSM7 L NSM17 L2 NSM7 L NSM2 L NSM5 L100 NSM L160 NSM7 L375
  NSM L61 NSM4 L15 ET L492 NSM4 L254 NSM2 L528 R208 NSM7 R109 NSM7 R805 AL80 R64 AL80 R176 AL240
  ON2 AL14 R256 ON44 L4 ON100 L12 ON15 L2 ON15 L ON15 L ON37 L10 EN11 ON5 L31 ON L58 ON6 L61 ON
  L178 ON6 L154 ON984 L4 ON17 L3 ON13 L3 ON119 L4 ON95 L6 ON12 L4 ON L15 ON12 L4 ON56 L8 ON10 L6
  ON40 L8 ON30 L2 ON12 L4 ON2 L62 ON340 L12 ON14 L2 ON13 L3 ON10 L5 ON56 L7 ON15 L2 ON11 L6 ON9
  L7 ON147 L ON92 EN10 L1028 BN2 L65534 BN2 L65534 BN2 L65534 BN2 L65534 BN2 L65534 BN2 L65534
  BN2 L65534 BN2 L65534 BN2 L65534 BN2 L65534 BN2 L65534 BN2 L65534 BN258 NSM240 BN3600 L61438
  BN2 L65534 BN2 L65534 BN2"

/-- The classes of all code points. -/
def table : Runs BidiClass :=
  Runs.ofText
    (fun name => ((abbreviations.find? (·.1 == name)).map (·.2)).getD .leftToRight) text

/-- The class of a code point. -/
def of (c : Nat) : BidiClass := table.get c

end BidiClass

end Regex.Unicode
