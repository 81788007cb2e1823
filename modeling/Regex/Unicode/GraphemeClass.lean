import Regex.Unicode.Runs

/-!
# User-perceived characters

The classes that decide where a user-perceived character (a grapheme cluster) may end, and the
rules between neighbouring classes. Rules that look further back than one character, for emoji
sequences and flags, are applied by the caller.
-/

namespace Regex.Unicode

/-- The classes of code points inside user-perceived characters. -/
inductive GraphemeClass where
  | carriageReturn
  | lineFeed
  | control
  | extend
  | prependedMark
  | spacingMark
  | leadingJamo
  | vowelJamo
  | trailingJamo
  | openSyllable
  | closedSyllable
  | regionalIndicator
  | other
  | joiner
  | pictograph
  deriving DecidableEq, Inhabited

namespace GraphemeClass

/-- Every class with the tag that stands for it in the table. -/
def tags : List (String × GraphemeClass) :=
  [("CR", .carriageReturn), ("LF", .lineFeed), ("Control", .control),
   ("Extend", .extend), ("Prepend", .prependedMark), ("SpacingMark", .spacingMark),
   ("L", .leadingJamo), ("V", .vowelJamo), ("T", .trailingJamo),
   ("LV", .openSyllable), ("LVT", .closedSyllable), ("RI", .regionalIndicator),
   ("Other", .other), ("ZWJ", .joiner), ("ExtPict", .pictograph)]

/-- The classes of all code points in order, each with the length of its run. Every composed
Hangul syllable counts as open here. -/
def text : String := "
  Control10 LF Control2 CR Control18 Other95 Control33 Other9 ExtPict Other3 Control ExtPict
  Other593 Extend112 Other275 Extend7 Other263 Extend45 Other Extend Other Extend2 Other Extend2
  Other Extend Other56 Prepend6 Other10 Extend11 Other Control Other46 Extend21 Other16 Extend
  Other101 Extend7 Prepend Other Extend6 Other2 Extend2 Other Extend4 Other33 Prepend Other
  Extend Other30 Extend27 Other91 Extend11 Other58 Extend9 Other9 Extend Other24 Extend4 Other
  Extend9 Other Extend3 Other Extend5 Other43 Extend3 Other52 Prepend2 Other5 Extend9 Other42
  Extend24 Prepend Extend32 SpacingMark Other54 Extend SpacingMark Extend Other SpacingMark3
  Extend8 SpacingMark4 Extend SpacingMark2 Other Extend7 Other10 Extend2 Other29 Extend
  SpacingMark2 Other56 Extend Other Extend SpacingMark2 Extend4 Other2 SpacingMark2 Other2
  SpacingMark2 Extend Other9 Extend Other10 Extend2 Other26 Extend Other2 Extend2 SpacingMark
  Other56 Extend Other SpacingMark3 Extend2 Other4 Extend2 Other2 Extend3 Other3 Extend Other30
  Extend2 Other3 Extend Other11 Extend2 SpacingMark Other56 Extend Other SpacingMark3 Extend5
  Other Extend2 SpacingMark Other SpacingMark2 Extend Other20 Extend2 Other22 Extend6 Other
  Extend SpacingMark2 Other56 Extend Other Extend2 SpacingMark Extend4 Other2 SpacingMark2
  Other2 SpacingMark2 Extend Other7 Extend3 Other10 Extend2 Other30 Extend Other59 Extend
  SpacingMark Extend SpacingMark2 Other3 SpacingMark3 Other SpacingMark3 Extend Other9 Extend
  Other40 Extend SpacingMark3 Extend Other55 Extend Other Extend3 SpacingMark4 Other Extend3
  Other Extend4 Other7 Extend2 Other11 Extend2 Other29 Extend SpacingMark2 Other56 Extend Other
  SpacingMark Extend2 SpacingMark Extend SpacingMark2 Other Extend3 Other Extend4 Other7 Extend2
  Other11 Extend2 Other15 SpacingMark Other12 Extend2 SpacingMark2 Other55 Extend2 Other Extend
  SpacingMark2 Extend4 Other SpacingMark3 Other SpacingMark3 Extend Prepend Other8 Extend
  Other10 Extend2 Other29 Extend SpacingMark2 Other70 Extend Other4 Extend SpacingMark2 Extend3
  Other Extend Other SpacingMark7 Extend Other18 SpacingMark2 Other61 Extend Other SpacingMark
  Extend7 Other12 Extend8 Other98 Extend Other SpacingMark Extend9 Other11 Extend7 Other73
  Extend2 Other27 Extend Other Extend Other Extend Other4 SpacingMark2 Other49 Extend14
  SpacingMark Extend5 Other Extend2 Other5 Extend11 Other Extend36 Other9 Extend Other102
  Extend4 SpacingMark Extend6 Other Extend2 SpacingMark2 Extend2 Other23 SpacingMark2 Extend2
  Other4 Extend3 Other16 Extend4 Other13 Extend Other SpacingMark Extend2 Other6 Extend Other15
  Extend Other98 L96 V72 T88 Other349 Extend3 Other946 Extend4 Other28 Extend3 Other29 Extend2
  Other30 Extend2 Other64 Extend2 SpacingMark Extend7 SpacingMark8 Extend SpacingMark2 Extend11
  Other9 Extend Other45 Extend3 Control Extend Other117 Extend2 Other34 Extend Other118 Extend3
  SpacingMark4 Extend2 SpacingMark3 Other4 SpacingMark2 Extend SpacingMark6 Extend3 Other219
  Extend2 SpacingMark2 Extend Other57 SpacingMark Extend SpacingMark Extend7 Other Extend Other
  Extend Other2 Extend8 SpacingMark6 Extend10 Other2 Extend Other48 Extend31 Other49 Extend4
  SpacingMark Other47 Extend10 SpacingMark4 Extend3 Other38 Extend9 Other12 Extend2 SpacingMark
  Other30 SpacingMark Extend4 SpacingMark2 Extend6 Other56 Extend SpacingMark Extend2
  SpacingMark3 Extend SpacingMark Extend5 Other48 SpacingMark8 Extend8 SpacingMark2 Extend2
  Other152 Extend3 Other Extend13 SpacingMark Extend7 Other4 Extend Other6 Extend Other2
  SpacingMark Extend2 Other198 Extend64 Other523 Control Extend ZWJ Control2 Other24 Control7
  Other13 ExtPict Other12 ExtPict Other22 Control16 Other96 Extend33 Other49 ExtPict Other22
  ExtPict Other90 ExtPict6 Other15 ExtPict2 Other367 ExtPict2 Other12 ExtPict Other95 ExtPict
  Other70 ExtPict Other25 ExtPict11 Other4 ExtPict3 Other199 ExtPict Other231 ExtPict2 Other10
  ExtPict Other9 ExtPict Other58 ExtPict4 Other ExtPict6 Other ExtPict12 Other ExtPict114
  Other10 ExtPict118 Other2 ExtPict11 Other ExtPict Other ExtPict Other6 ExtPict Other3 ExtPict
  Other6 ExtPict Other10 ExtPict2 Other15 ExtPict Other2 ExtPict Other4 ExtPict Other ExtPict
  Other4 ExtPict3 Other ExtPict Other11 ExtPict5 Other45 ExtPict3 Other9 ExtPict Other14 ExtPict
  Other14 ExtPict Other372 ExtPict2 Other463 ExtPict3 Other19 ExtPict2 Other51 ExtPict Other4
  ExtPict Other409 Extend3 Other141 Extend Other96 Extend32 Other554 Extend6 ExtPict Other12
  ExtPict Other91 Extend2 Other508 ExtPict Other ExtPict Other29653 Extend4 Other Extend10
  Other32 Extend2 Other80 Extend2 Other272 Extend Other3 Extend Other4 Extend Other23
  SpacingMark2 Extend2 SpacingMark Other4 Extend Other83 SpacingMark2 Other50 SpacingMark16
  Extend2 Other26 Extend18 Other13 Extend Other38 Extend8 Other25 Extend11 SpacingMark Extend
  Other12 L29 Other3 Extend3 SpacingMark Other47 Extend SpacingMark2 Extend4 SpacingMark2
  Extend2 SpacingMark2 Extend Other36 Extend Other67 Extend6 SpacingMark2 Extend2 SpacingMark2
  Extend2 Other12 Extend Other8 Extend SpacingMark Other46 Extend Other51 Extend Other Extend3
  Other2 Extend2 Other5 Extend2 Other Extend Other41 SpacingMark Extend2 SpacingMark2 Other5
  SpacingMark Extend Other236 SpacingMark2 Extend SpacingMark2 Extend SpacingMark2 Other
  SpacingMark Extend Other18 LV11172 Other12 V23 Other4 T49 Other8994 Extend Other737 Extend16
  Other16 Extend16 Other207 Control Other158 Extend2 Other80 Control12 Other513 Extend Other226
  Extend Other149 Extend5 Other1670 Extend3 Other Extend2 Other5 Extend4 Other40 Extend3 Other4
  Extend Other165 Extend2 Other573 Extend4 Other65 Extend5 Other317 Extend2 Other79 Extend4
  Other70 Extend11 Other49 Extend4 Other122 SpacingMark Extend SpacingMark Other53 Extend15
  Other41 Extend Other2 Extend2 Other10 Extend3 SpacingMark Other45 SpacingMark3 Extend4
  SpacingMark2 Extend2 Other2 Prepend Other4 Extend Other10 Prepend Other50 Extend3 Other36
  Extend5 SpacingMark Extend8 Other16 SpacingMark2 Other44 Extend Other12 Extend2 SpacingMark
  Other48 SpacingMark3 Extend9 SpacingMark Extend Other Prepend2 Other5 Extend4 Other
  SpacingMark Extend Other92 SpacingMark3 Extend3 SpacingMark2 Extend4 Other6 Extend Other2
  Extend Other157 Extend SpacingMark3 Extend8 Other21 Extend2 SpacingMark2 Other55 Extend2 Other
  Extend SpacingMark Extend SpacingMark4 Other2 SpacingMark2 Other2 SpacingMark2 Extend Other9
  Extend Other10 SpacingMark2 Other2 Extend7 Other3 Extend5 Other67 Extend SpacingMark2 Extend6
  Other Extend Other2 Extend Other Extend3 SpacingMark Other SpacingMark2 Extend3 Prepend Extend
  Other14 Extend2 Other82 SpacingMark3 Extend8 SpacingMark2 Extend3 SpacingMark Extend Other23
  Extend Other81 Extend SpacingMark2 Extend6 SpacingMark Extend SpacingMark2 Extend SpacingMark
  Extend2 SpacingMark Extend2 Other235 Extend SpacingMark2 Extend4 Other2 SpacingMark4 Extend2
  SpacingMark Extend2 Other27 Extend2 Other82 SpacingMark3 Extend8 SpacingMark2 Extend
  SpacingMark Extend2 Other106 Extend SpacingMark Extend SpacingMark2 Extend8 Other101 Extend
  SpacingMark Extend Other2 Extend4 SpacingMark Extend5 Other256 SpacingMark3 Extend9
  SpacingMark Extend2 Other245 Extend SpacingMark5 Other SpacingMark2 Other2 Extend4 Prepend
  SpacingMark Prepend SpacingMark Extend Other141 SpacingMark3 Extend4 Other2 Extend2
  SpacingMark4 Extend Other3 SpacingMark Other28 Extend10 Other40 Extend6 SpacingMark Prepend
  Extend4 Other8 Extend Other9 Extend6 SpacingMark2 Extend3 Other40 Prepend6 Extend13
  SpacingMark Extend2 Other405 SpacingMark Extend7 Other Extend6 SpacingMark Extend Other82
  Extend22 Other SpacingMark Extend7 SpacingMark Extend2 SpacingMark Extend2 Other122 Extend6
  Other3 Extend Other Extend2 Other Extend7 Prepend Extend Other66 SpacingMark5 Other Extend2
  Other SpacingMark2 Extend SpacingMark Extend Other347 Extend2 SpacingMark2 Other9 Extend2
  Prepend SpacingMark Other48 SpacingMark2 Extend5 Other3 SpacingMark2 Extend3 Other23 Extend
  Other5333 Control16 Extend Other6 Extend15 Other11464 Extend12 SpacingMark3 Extend3 Other2496
  Extend5 Other59 Extend7 Other556 V Other3 V4 Other484 Extend Other SpacingMark55 Other7
  Extend4 Other81 Extend Other11 Extend2 Other19627 Extend2 Other Control4 Other4700 Extend46
  Other2 Extend23 Other542 Extend5 Other3 Extend6 Control8 Extend8 Other2 Extend7 Other30
  Extend4 Other148 Extend3 Other1979 Extend55 Other4 Extend50 Other8 Extend Other14 Extend
  Other22 Extend5 Other Extend15 Other1360 Extend7 Other Extend17 Other2 Extend7 Other Extend2
  Other Extend5 Other100 Extend Other160 Extend7 Other375 Extend Other61 Extend4 Other508
  Extend4 Other254 Extend2 Other736 Extend7 Other109 Extend7 Other1717 ExtPict256 Other13
  ExtPict3 Other31 ExtPict Other60 ExtPict6 Other12 ExtPict2 Other14 ExtPict Other2 ExtPict10
  Other18 ExtPict57 RI26 Other ExtPict15 Other10 ExtPict Other20 ExtPict Other2 ExtPict9 Other
  ExtPict4 Other9 ExtPict434 Extend5 ExtPict318 Other8 ExtPict266 Other48 ExtPict128 Other116
  ExtPict12 Other85 ExtPict43 Other12 ExtPict4 Other56 ExtPict8 Other10 ExtPict6 Other40
  ExtPict8 Other30 ExtPict4 Other10 ExtPict4 Other2 ExtPict62 Other12 ExtPict47 Other ExtPict10
  Other ExtPict441 Other256 ExtPict1022 Other786434 Control32 Extend96 Control128 Extend240
  Control3600 Other192512"

/-- The classes of all code points. -/
def table : Runs GraphemeClass :=
  Runs.ofText (fun tag => ((tags.find? (·.1 == tag)).map (·.2)).getD .other) text

/-- The class of a code point. A composed Hangul syllable is open exactly when its number among
them is a multiple of 28. -/
def of (c : Nat) : GraphemeClass :=
  match table.get c with
  | .openSyllable => if (c - 0xAC00) % 28 = 0 then .openSyllable else .closedSyllable
  | g => g

/-- Whether a character of the second class always continues the user-perceived character that one
of the first class stands in. A pictograph after a joiner and a flag letter after another are only
possible continuations, which depend on what came before. -/
def joins : GraphemeClass → GraphemeClass → Bool
  | .carriageReturn, g => g == .lineFeed
  | .lineFeed, _ | .control, _ => false
  | .regionalIndicator, g => g == .regionalIndicator
  | _, .extend | _, .spacingMark | _, .joiner => true
  | .prependedMark, g =>
    !(g == .carriageReturn || g == .lineFeed || g == .control || g == .pictograph)
  | .leadingJamo, g =>
    g == .leadingJamo || g == .vowelJamo || g == .openSyllable || g == .closedSyllable
  | .openSyllable, g | .vowelJamo, g => g == .vowelJamo || g == .trailingJamo
  | .closedSyllable, g | .trailingJamo, g => g == .trailingJamo
  | .joiner, g => g == .pictograph
  | _, _ => false

end GraphemeClass

end Regex.Unicode
