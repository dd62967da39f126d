import Mathlib.Data.List.Basic
import Mathlib.Data.List.Infix
import Mathlib.Data.List.Sort
import Mathlib.Order.Defs.Unbundled

/-!
# `GoStrings` — operations of Go's `strings` package

A Go string that holds text is a Lean `String`, and the operations work on its characters. All separators are
ASCII, so splitting by characters and splitting by bytes agree. `toLower` has the letters of Unicode 15, as the
tables of package `unicode` list them.
-/

namespace GoStrings

open List

def isSpace (c : Char) : Bool :=
  let n := c.toNat
  (9 ≤ n && n ≤ 13) || n == 0x20 || n == 0x85 || n == 0xa0 || n == 0x1680
    || (0x2000 ≤ n && n ≤ 0x200a) || n == 0x2028 || n == 0x2029 || n == 0x202f
    || n == 0x205f || n == 0x3000

variable (s p : String)

def trimSpace : String := String.ofList ((s.toList.dropWhile isSpace).reverse.dropWhile isSpace).reverse

/-- Ranges of capital letters, with the distance to the small ones. -/
def lowerRanges : List (Nat × Nat × Int) :=
  [(192, 214, 32), (216, 222, 32), (393, 394, 205), (433, 434, 217), (904, 906, 37), (910, 911, 63), (913, 929, 32),
    (931, 939, 32), (1021, 1023, -130), (1024, 1039, 80), (1040, 1071, 32), (1329, 1366, 48), (4256, 4293, 7264),
    (5024, 5103, 38864), (5104, 5109, 8), (7312, 7354, -3008), (7357, 7359, -3008), (7944, 7951, -8), (7960, 7965, -8),
    (7976, 7983, -8), (7992, 7999, -8), (8008, 8013, -8), (8040, 8047, -8), (8072, 8079, -8), (8088, 8095, -8),
    (8104, 8111, -8), (8120, 8121, -8), (8122, 8123, -74), (8136, 8139, -86), (8152, 8153, -8), (8154, 8155, -100),
    (8168, 8169, -8), (8170, 8171, -112), (8184, 8185, -128), (8186, 8187, -126), (8544, 8559, 16), (9398, 9423, 26),
    (11264, 11311, 48), (11390, 11391, -10815), (65313, 65338, 32), (66560, 66599, 40), (66736, 66771, 40),
    (66928, 66938, 39), (66940, 66954, 39), (66956, 66962, 39), (66964, 66965, 39), (68736, 68786, 64),
    (71840, 71871, 32), (93760, 93791, 32), (125184, 125217, 34)]

/-- Ranges in which every other character is a capital letter, followed by its small one. -/
def lowerPairs : List (Nat × Nat) :=
  [(256, 302), (306, 310), (313, 327), (330, 374), (377, 381), (386, 388), (416, 420), (435, 437), (459, 475),
    (478, 494), (498, 500), (504, 542), (546, 562), (582, 590), (880, 882), (984, 1006), (1120, 1152), (1162, 1214),
    (1217, 1229), (1232, 1326), (7680, 7828), (7840, 7934), (11367, 11371), (11392, 11490), (11499, 11501),
    (42560, 42604), (42624, 42650), (42786, 42798), (42802, 42862), (42873, 42875), (42878, 42886), (42896, 42898),
    (42902, 42920), (42932, 42946), (42951, 42953), (42966, 42968)]

/-- The other capital letters and their small ones. -/
def lowerLetters : List (Nat × Nat) :=
  [(304, 105), (376, 255), (385, 595), (390, 596), (391, 392), (395, 396), (398, 477), (399, 601), (400, 603),
    (401, 402), (403, 608), (404, 611), (406, 617), (407, 616), (408, 409), (412, 623), (413, 626), (415, 629),
    (422, 640), (423, 424), (425, 643), (428, 429), (430, 648), (431, 432), (439, 658), (440, 441), (444, 445),
    (452, 454), (453, 454), (455, 457), (456, 457), (458, 460), (497, 499), (502, 405), (503, 447), (544, 414),
    (570, 11365), (571, 572), (573, 410), (574, 11366), (577, 578), (579, 384), (580, 649), (581, 652), (886, 887),
    (895, 1011), (902, 940), (908, 972), (975, 983), (1012, 952), (1015, 1016), (1017, 1010), (1018, 1019),
    (1216, 1231), (4295, 11559), (4301, 11565), (7838, 223), (8025, 8017), (8027, 8019), (8029, 8021), (8031, 8023),
    (8124, 8115), (8140, 8131), (8172, 8165), (8188, 8179), (8486, 969), (8490, 107), (8491, 229), (8498, 8526),
    (8579, 8580), (11360, 11361), (11362, 619), (11363, 7549), (11364, 637), (11373, 593), (11374, 625), (11375, 592),
    (11376, 594), (11378, 11379), (11381, 11382), (11506, 11507), (42877, 7545), (42891, 42892), (42893, 613),
    (42922, 614), (42923, 604), (42924, 609), (42925, 620), (42926, 618), (42928, 670), (42929, 647), (42930, 669),
    (42931, 43859), (42948, 42900), (42949, 642), (42950, 7566), (42960, 42961), (42997, 42998)]

/-- `unicode.ToLower`. -/
def toLowerChar (c : Char) : Char :=
  let n := c.toNat
  if n < 0x80 then c.toLower
  else
    match lowerRanges.find? (fun (lo, hi, _) => lo ≤ n ∧ n ≤ hi) with
    | some (_, _, delta) => Char.ofNat (n + delta).toNat
    | none =>
      if lowerPairs.any (fun (lo, hi) => lo ≤ n ∧ n ≤ hi ∧ n % 2 = lo % 2) then Char.ofNat (n + 1)
      else Char.ofNat ((lowerLetters.lookup n).getD n)

def toLower : String := String.ofList (s.toList.map toLowerChar)

/-- The letter that `strings.EqualFold` compares, of an ASCII letter and of the two other characters that fold to
    one. -/
def foldChar (c : Char) : Char :=
  if c.toNat == 0x17f then 's' else if c.toNat == 0x212a then 'k' else c.toLower

/-- `strings.EqualFold`, of a text with one whose letters are ASCII. -/
def equalFold (s t : String) : Bool := s.toList.map foldChar == t.toList.map foldChar

def containsAny (chars : List Char) : Bool := s.toList.any chars.contains

def containsChar (c : Char) : Bool := s.toList.contains c

/-- `strings.Contains`, on lists of characters or bytes. -/
def containsList {α : Type} [BEq α] (l sub : List α) : Bool := l.tails.any (fun t => sub.isPrefixOf t)

def hasPrefix : Bool := p.toList.isPrefixOf s.toList

def hasSuffix : Bool := p.toList.isSuffixOf s.toList

def trimPrefix : String :=
  if hasPrefix s p then String.ofList (s.toList.drop p.toList.length) else s

def trimSuffix : String :=
  if hasSuffix s p then String.ofList (s.toList.take (s.toList.length - p.toList.length)) else s

def count (c : Char) : Nat := s.toList.count c

def split (c : Char) : List String := (s.toList.splitOn c).map String.ofList

/-! ### Sorting by a key -/

section Sorted

variable {α β : Type} [LT β] [DecidableLT β]

/-- `sort.Slice` by a key. The sort is stable, which Go's need not be; the two agree when no two elements
    compare as equal. -/
def sortBy (key : α → β) (l : List α) : List α := l.insertionSort (fun a b => ¬ key b < key a)

theorem sortBy_perm (key : α → β) (l : List α) : (sortBy key l).Perm l := perm_insertionSort _ l

@[simp] theorem mem_sortBy {key : α → β} {l : List α} {a : α} : a ∈ sortBy key l ↔ a ∈ l :=
  (sortBy_perm key l).mem_iff

theorem sortBy_map {α β γ : Type} [LT γ] [DecidableLT γ] (f : α → β) (key : β → γ) (l : List α) :
    sortBy key (l.map f) = (sortBy (fun a => key (f a)) l).map f :=
  (map_insertionSort (r := fun a b => ¬ key (f b) < key (f a)) (s := fun a b => ¬ key b < key a) f l
    (fun _ _ _ _ => Iff.rfl)).symm

theorem isStrictTotalOrder_string : IsStrictTotalOrder String (· < ·) where
  irrefl := String.lt_irrefl
  trans _ _ _ := String.lt_trans
  trichotomous _ _ h h' := String.le_antisymm (String.not_lt.mp h') (String.not_lt.mp h)

theorem isStrictTotalOrder_strings : IsStrictTotalOrder (List String) (· < ·) where
  irrefl := List.lt_irrefl
  trans _ _ _ := List.lt_trans
  trichotomous _ _ h h' := List.le_antisymm (List.not_lt.mp h') (List.not_lt.mp h)

theorem pairwise_sortBy (hβ : IsStrictTotalOrder β (· < ·)) (key : α → β) (l : List α) :
    (sortBy key l).Pairwise (fun a b => ¬ key b < key a) := by
  have htot : Std.Total (fun a b : α => ¬ key b < key a) := by
    refine ⟨fun a b => ?_⟩
    by_cases hba : key b < key a
    · exact .inr (fun hab => hβ.irrefl _ (hβ.trans _ _ _ hab hba))
    · exact .inl hba
  have htrans : IsTrans α (fun a b => ¬ key b < key a) := by
    refine ⟨fun a b c hab hbc hca => ?_⟩
    -- `key a < key b` would put `c` before `b`; otherwise the two keys are the same
    by_cases hlt : key a < key b
    · exact hbc (hβ.trans _ _ _ hca hlt)
    · rw [hβ.trichotomous _ _ hlt hab] at hca
      exact hbc hca
  exact pairwise_insertionSort (fun a b => ¬ key b < key a) l

/-- With distinct keys the order before does not matter. -/
theorem sortBy_eq_of_perm (hβ : IsStrictTotalOrder β (· < ·)) {key : α → β} {l l' : List α}
    (hperm : l.Perm l') (hkeys : (l.map key).Nodup) : sortBy key l = sortBy key l' := by
  refine Perm.eq_of_pairwise ?_ (pairwise_sortBy hβ key l) (pairwise_sortBy hβ key l')
    (((sortBy_perm key l).trans hperm).trans (sortBy_perm key l').symm)
  intro a b ha hb hle hge
  have hkey : key a = key b := hβ.trichotomous _ _ hge hle
  exact inj_on_of_nodup_map hkeys (mem_sortBy.mp ha) (hperm.mem_iff.mpr (mem_sortBy.mp hb)) hkey

end Sorted

/-! ## Cutting a list at its first separator -/

/-- Two lists with the same first separator agree before and after it. -/
theorem append_cons_inj {α : Type} {sep : α} {a b s t : List α} (ha : sep ∉ a) (hb : sep ∉ b)
    (h : a ++ sep :: s = b ++ sep :: t) : a = b ∧ s = t := by
  induction a generalizing b with
  | nil => cases b <;> simp_all
  | cons x a ih => cases b <;> grind

end GoStrings
