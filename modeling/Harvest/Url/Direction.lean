import Harvest.Text.Category

/-!
# Directions of writing

A host name may hold letters that are written from the right. A label of such a name has one direction,
which its first character gives, and holds only what fits: `Direction.isConsistent`. Two invisible
characters that act on how their neighbours are joined may stand only where that means something:
`Direction.joinersFit`.
-/

namespace Harvest.Url.Direction

open Text (CharSet)

/-- Letters written from the right. -/
def hebrewLike : CharSet := .ofText
  "5BE-5F4 7C0-7F5 7FA-85E 10800-1091B 10920-1093F 10980-10B35 10B40-10CFF 10E80-10EB1 10F00-10F27
10F70-10FF6 1E800-1E95F"

/-- Arabic letters, and others that behave like them. -/
def arabicLike : CharSet := .ofText
  "608 60B 60D 61B-64A 66D-6D5 6E5-6E6 6EE-6EF 6FA-7B1 860-88E 8A0-8C9 FBB2-FBC2 FE73 10D00-10D23
10F30-10F59 1EC71-1ED3D"

/-- Digits that go with Arabic letters. -/
def arabicDigits : CharSet := .ofText
  "660-669 66B-66C 10D30-10D39 10E60-10E7E"

/-- The other digits. -/
def plainDigits : CharSet := .ofText
  "30-39 6F0-6F9 102E1-102FB"

/-- Characters without a direction of their own: signs around numbers, symbols, and invisible ones. -/
def neutral : CharSet := .ofText
  "0-8 E-1B 21-22 23-25 26-2A 2B 2C 2D 2E-2F 3A 3B-60 7B-7E 7F A1 A2-A5 A6-AE B0-B1 B6-D7 F7 2B9-2BA
2C2-2CF 2D2-2ED 2EF-2FF 375 3F6 58A-58E 58F 606-607 609-60A 60C 60E-60F 66A 6DE 6E9 7F6-7F9
9F2-9F3 9FB AF1 BF3-BF8 BF9 BFA C78-C7E E3F F3A-F3D 1390-1399 1400 169B-169C 17DB 17F0-180A
1940-1945 19DE-19FF 200C-200D 2010-2027 2030-2032 2035-2043 2044 2045-205E 20A0-20C0 2104-2129
212E 213A-214D 218A-2211 2212 2213 2214-2335 237B-2394 2396-2426 2440-26AB 26AD-27FF 2900-2B95
2B97-2BFF 2CE5-2CEA 2CF9-2CFF 2E00-3004 3008-3020 3030 3037 303D-303F 30A0 30FB 31C0-31E3
4DC0-4DFF A490-A4C6 A60D-A60F A673-A67F A700-A721 A788 A828-A82B A838-A839 A874-A877 AB6A-AB6B
FD3E-FD4F FDCF-FE46 10101 10140-1018C 10190-101A0 1091F 10B39-10B3F 11052-11065 11660-1166C
11FD5-11FDC 11FDD-11FE0 11FE1-11FF1 16FE2 1D1E9-1D245 1D300-1D356 1E2FF 1EEF0-1F12F 1F16D-1F16F
1F1AD 1F260-1F6D7 1F6DC-1F776 1F77B-1F8B1 1F900-1FA53 1FA60-1FA88 1FA90-1FABD 1FABF-1FAC5
1FACE-1FADB 1FAE0-1FAE8 1FAF0-1FBCA"

/-- What a character does to the direction of a text. -/
inductive Kind where
  | left
  | right
  /-- A digit that goes with Arabic letters. -/
  | arabicDigit
  | digit
  | neutral
  | mark
  deriving DecidableEq, Repr

/-- Whether a character stands on the one before it. -/
def isMark (c : Char) : Bool :=
  Text.Category.nonspacingMark.contains c || Text.Category.enclosingMark.contains c

/-- The kind of a character. -/
def kindOf (c : Char) : Kind :=
  if isMark c then .mark
  else if hebrewLike.contains c || arabicLike.contains c then .right
  else if arabicDigits.contains c then .arabicDigit
  else if plainDigits.contains c then .digit
  else if neutral.contains c then .neutral
  else .left

/-- Whether a text has something that is written from the right. -/
def hasRight (cs : List Char) : Bool :=
  cs.any fun c => kindOf c == .right || kindOf c == .arabicDigit

/-- The kind of the last character that is no mark. -/
def lastKind? (kinds : List Kind) : Option Kind :=
  kinds.reverse.find? fun k => k != .mark

/-- Whether a label has one direction. -/
def isConsistent (label : List Char) : Bool :=
  let kinds := label.map kindOf
  match kinds with
  | [] => true
  | .right :: _ =>
    kinds.all (fun k => k != .left)
      && [some .right, some .digit, some .arabicDigit].contains (lastKind? kinds)
      && !(kinds.contains .digit && kinds.contains .arabicDigit)
  | .left :: _ =>
    kinds.all (fun k => k != .right && k != .arabicDigit)
      && [some .left, some .digit].contains (lastKind? kinds)
  | _ => false

/-! ## Joiners -/

/-- Letters that join on both sides. -/
def joinsBoth : CharSet := .ofText
  "620 626 628 62A-62E 633-63F 641-647 649-64A 66E-66F 678-687 69A-6BF 6C1-6C2 6CC 6CE 6D0-6D1
6FA-6FC 6FF 712-714 71A-71D 71F-727 729 72B 72D-72E 74E-758 75C-76A 76D-770 772 775-777 77A-77F
7CA-7EA 841-845 848 84A-853 855 860 862-865 868 886 889-88D 88F 8A0-8A9 8AF-8B0 8B3-8B8 8BA-8C8
1807 1820-1878 1887-18A8 18AA A840-A871 10AC0-10AC4 10AD3-10AD6 10AD8-10ADC 10ADE-10AE0
10AEB-10AEE 10B80 10B82 10B86-10B88 10B8A-10B8B 10B8D 10B90 10BAD-10BAE 10D01-10D21 10D23
10EC3-10EC4 10EC6-10EC7 10F30-10F32 10F34-10F44 10F51-10F53 10F70-10F73 10F76-10F81 10FB0
10FB2-10FB3 10FB8 10FBB-10FBC 10FBE-10FBF 10FC1 10FC4 10FCA 1E900-1E943"

/-- Letters that join to what follows. -/
def joinsAfter : CharSet := .ofText
  "A872 10ACD 10AD7 10D00 10FCB"

/-- Letters that join to what comes before. -/
def joinsBefore : CharSet := .ofText
  "622-625 627 629 62F-632 648 671-673 675-677 688-699 6C0 6C3-6CB 6CD 6CF 6D2-6D3 6D5 6EE-6EF 710
715-719 71E 728 72A 72C 72F 74D 759-75B 76B-76C 771 773-774 778-779 840 846-847 849 854 856-858
867 869-86A 870-882 88E 8AA-8AC 8AE 8B1-8B2 8B9 10AC5 10AC7 10AC9-10ACA 10ACE-10AD2 10ADD 10AE1
10AE4 10AEF 10B81 10B83-10B85 10B89 10B8C 10B8E-10B8F 10B91 10BA9-10BAC 10D22 10EC2 10F33 10F54
10F74-10F75 10FB4-10FB6 10FB9-10FBA 10FBD 10FC2-10FC3 10FC9"

/-- Whether joining looks through a character. -/
def isTransparent (c : Char) : Bool :=
  isMark c || c.toNat == 0x1E94B

/-- The mark that keeps two letters apart, and the one that joins them. -/
def nonJoiner : Char := '\u200c'

/-- The mark that joins two letters. -/
def joiner : Char := '\u200d'

/-- The class of marks that take away the vowel of a letter. -/
def vowelKiller : Nat := 9

/-- Whether the marks that act on joining fit behind the characters `before`, which stand in reverse;
`classOf` gives the classes of marks. -/
def joinersFit (classOf : Nat → Nat) (before : List Char) : List Char → Bool
  | [] => true
  | c :: more =>
    let killed := (before.head?.map fun b => classOf b.toNat == vowelKiller).getD false
    let between :=
      ((before.dropWhile isTransparent).head?.map fun b =>
        joinsAfter.contains b || joinsBoth.contains b).getD false
      && ((more.dropWhile isTransparent).head?.map fun a =>
        joinsBefore.contains a || joinsBoth.contains a).getD false
    let fits := if c == nonJoiner then killed || between else if c == joiner then killed else true
    fits && joinersFit classOf (c :: before) more

end Harvest.Url.Direction
