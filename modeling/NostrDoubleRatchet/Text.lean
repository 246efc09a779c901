import Mathlib.Data.List.DropRight
import NostrDoubleRatchet.AppKeys

/-!
How the text functions of the standard library undo each other: a number read back from
its digits, and texts that trimming leaves alone.
-/

namespace NostrDoubleRatchet

/-- A text without white space at its ends. -/
def Trimmed (text : String) : Prop := trim text = text

instance (text : String) : Decidable (Trimmed text) :=
  inferInstanceAs (Decidable (trim text = text))

theorem toList_toString (n : Nat) : (toString n).toList = Nat.toDigits 10 n := by
  rw [Nat.toString_eq_ofList_toDigits, String.toList_ofList]

private theorem digit_ne_plus {c : Char} (h : c.isDigit = true) : c ≠ '+' := by
  rintro rfl
  exact absurd h (by decide)

theorem parseU64_toString {n : Nat} (h : n ≤ u64Max) : parseU64 (toString n) = some n := by
  have hall : ∀ c ∈ Nat.toDigits 10 n, c.isDigit = true :=
    fun c hmem => Nat.isDigit_of_mem_toDigits (by decide) (by decide) hmem
  have hvalue : (Nat.toDigits 10 n).foldl (fun m c => 10 * m + (c.toNat - '0'.toNat)) 0 = n := by
    rw [← Nat.ofDigitChars_eq_foldl]
    exact Nat.ofDigitChars_ten_toDigits
  have hne : Nat.toDigits 10 n ≠ [] := Nat.toDigits_ne_nil
  unfold parseU64
  rw [toList_toString]
  generalize Nat.toDigits 10 n = digits at hall hvalue hne
  dsimp only
  split
  · exact absurd rfl (digit_ne_plus (hall '+' List.mem_cons_self))
  · rw [hvalue, if_pos ⟨hne, List.all_eq_true.mpr hall, h⟩]

theorem le_foldl_digits (digits : List Char) (value : Nat) :
    value ≤ digits.foldl (fun m c => 10 * m + (c.toNat - '0'.toNat)) value := by
  induction digits generalizing value with
  | nil => exact le_rfl
  | cons c rest ih =>
      refine le_trans ?_ (ih _)
      change value ≤ 10 * value + (c.toNat - '0'.toNat)
      omega

/-! Trimming. -/

theorem dropWhile_of_forall {p : Char → Bool} {chars : List Char}
    (h : ∀ c ∈ chars, p c = false) : chars.dropWhile p = chars := by
  cases chars with
  | nil => rfl
  | cons c rest => rw [List.dropWhile_cons_of_neg (by simp [h c List.mem_cons_self])]

theorem trimmed_of_forall {text : String} (h : ∀ c ∈ text.toList, isWhitespace c = false) :
    Trimmed text := by
  unfold Trimmed trim
  rw [dropWhile_of_forall h, dropWhile_of_forall (fun c hmem => h c (List.mem_reverse.mp hmem)),
    List.reverse_reverse, String.ofList_toList]

private theorem dropWhile_of_prefix {p : Char → Bool} {chars front : List Char}
    (h : front <+: chars.dropWhile p) : front.dropWhile p = front := by
  cases front with
  | nil => rfl
  | cons c rest =>
      obtain ⟨tail, htail⟩ := h
      have hhead := List.head?_dropWhile_not p chars
      rw [← htail] at hhead
      exact List.dropWhile_cons_of_neg (by simpa using hhead)

/-- A text trimmed by a test of its characters has nothing more to trim. -/
theorem trim_idempotent (p : Char → Bool) (chars : List Char) :
    (((((chars.dropWhile p).reverse.dropWhile p).reverse.dropWhile p).reverse.dropWhile p).reverse) =
      ((chars.dropWhile p).reverse.dropWhile p).reverse := by
  have hfront : ((chars.dropWhile p).rdropWhile p).dropWhile p =
      (chars.dropWhile p).rdropWhile p :=
    dropWhile_of_prefix (List.rdropWhile_prefix _ _)
  change (((chars.dropWhile p).rdropWhile p).dropWhile p).rdropWhile p = _
  rw [hfront, List.rdropWhile_idempotent]
  rfl

theorem trimmed_trim (text : String) : Trimmed (trim text) := by
  unfold Trimmed trim
  rw [String.toList_ofList, trim_idempotent]

/-- `trim`, by any test of the characters. -/
def trimBy (p : Char → Bool) (chars : List Char) : List Char :=
  ((chars.dropWhile p).reverse.dropWhile p).reverse

theorem trim_eq_trimBy (text : String) :
    trim text = String.ofList (trimBy isWhitespace text.toList) := rfl

theorem exists_trimBy (p : Char → Bool) (chars : List Char) : ∃ front back,
    chars = front ++ trimBy p chars ++ back ∧ (∀ c ∈ front, p c = true) ∧
      ∀ c ∈ back, p c = true := by
  refine ⟨chars.takeWhile p, ((chars.dropWhile p).reverse.takeWhile p).reverse, ?_, ?_, ?_⟩
  · unfold trimBy
    rw [List.append_assoc, ← List.reverse_append, List.takeWhile_append_dropWhile,
      List.reverse_reverse, List.takeWhile_append_dropWhile]
  · exact fun c hmem => List.mem_takeWhile_imp hmem
  · exact fun c hmem => List.mem_takeWhile_imp (List.mem_reverse.mp hmem)

theorem mem_of_mem_trimBy {p : Char → Bool} {chars : List Char} {c : Char}
    (h : c ∈ trimBy p chars) : c ∈ chars := by
  obtain ⟨front, back, hchars, -, -⟩ := exists_trimBy p chars
  rw [hchars]
  exact List.mem_append_left _ (List.mem_append_right _ h)

theorem forall_of_trimBy_eq_nil {p : Char → Bool} {chars : List Char}
    (h : trimBy p chars = []) : ∀ c ∈ chars, p c = true := by
  obtain ⟨front, back, hchars, hfront, hback⟩ := exists_trimBy p chars
  rw [h, List.append_nil] at hchars
  intro c hmem
  rw [hchars] at hmem
  rcases List.mem_append.mp hmem with hmem | hmem
  · exact hfront c hmem
  · exact hback c hmem

/-- Characters that the test drops, at either end, make no difference. -/
theorem trimBy_append {p : Char → Bool} {front chars back : List Char}
    (hfront : ∀ c ∈ front, p c = true) (hback : ∀ c ∈ back, p c = true) :
    trimBy p (front ++ chars ++ back) = trimBy p chars := by
  unfold trimBy
  rw [List.append_assoc, List.dropWhile_append_of_pos hfront]
  by_cases hall : ∀ c ∈ chars, p c = true
  · rw [List.dropWhile_append_of_pos hall, List.dropWhile_eq_nil_iff.mpr hback,
      List.dropWhile_eq_nil_iff.mpr hall]
  · have hne : chars.dropWhile p ≠ [] := fun h => hall (List.dropWhile_eq_nil_iff.mp h)
    rw [List.dropWhile_append, if_neg (by simpa using hne), List.reverse_append,
      List.dropWhile_append_of_pos (fun c hmem => hback c (List.mem_reverse.mp hmem))]

theorem trimBy_eq_self_iff {p : Char → Bool} {chars : List Char} :
    trimBy p chars = chars ↔
      (∀ c, chars.head? = some c → p c = false) ∧ ∀ c, chars.getLast? = some c → p c = false := by
  constructor
  · intro h
    constructor
    · intro c hhead
      have hfront : chars.dropWhile p = chars := by
        have hprefix : trimBy p chars <+: chars.dropWhile p := List.rdropWhile_prefix _ _
        rw [h] at hprefix
        exact dropWhile_of_prefix hprefix
      have hnot := List.head?_dropWhile_not p chars
      rw [hfront, hhead] at hnot
      simpa using hnot
    · intro c hlast
      have hnot := List.head?_dropWhile_not p (chars.dropWhile p).reverse
      have hback : ((chars.dropWhile p).reverse.dropWhile p).reverse = chars := h
      rw [← List.getLast?_reverse, hback, hlast] at hnot
      simpa using hnot
  · rintro ⟨hhead, hlast⟩
    have hfront : chars.dropWhile p = chars := by
      cases chars with
      | nil => rfl
      | cons c rest => exact List.dropWhile_cons_of_neg (by simp [hhead c rfl])
    have hback : chars.reverse.dropWhile p = chars.reverse := by
      cases hreverse : chars.reverse with
      | nil => rfl
      | cons c rest =>
          have hc : chars.getLast? = some c := by
            rw [← List.head?_reverse, hreverse]
            rfl
          exact List.dropWhile_cons_of_neg (by simp [hlast c hc])
    unfold trimBy
    rw [hfront, hback, List.reverse_reverse]

/-- Two tests trim a text alike where neither has more to trim after the other. -/
theorem trimBy_eq_of_fixed {p q : Char → Bool} {chars : List Char}
    (hp : trimBy q (trimBy p chars) = trimBy p chars)
    (hq : trimBy p (trimBy q chars) = trimBy q chars) : trimBy p chars = trimBy q chars := by
  have hboth : ∀ {p q : Char → Bool}, trimBy q (trimBy p chars) = trimBy p chars →
      trimBy p chars = trimBy (fun c => p c || q c) chars := by
    intro p q h
    have hself : trimBy p (trimBy p chars) = trimBy p chars := trim_idempotent p chars
    obtain ⟨hqhead, hqlast⟩ := trimBy_eq_self_iff.mp h
    obtain ⟨hphead, hplast⟩ := trimBy_eq_self_iff.mp hself
    obtain ⟨front, back, hchars, hfront, hback⟩ := exists_trimBy p chars
    have hfixed : trimBy (fun c => p c || q c) (trimBy p chars) = trimBy p chars := by
      refine trimBy_eq_self_iff.mpr ⟨?_, ?_⟩
      · intro c hc
        rw [hphead c hc, hqhead c hc]
        rfl
      · intro c hc
        rw [hplast c hc, hqlast c hc]
        rfl
    conv_rhs => rw [hchars]
    rw [trimBy_append, hfixed]
    · intro c hmem
      rw [hfront c hmem]
      rfl
    · intro c hmem
      rw [hback c hmem]
      rfl
  rw [hboth hp, hboth hq]
  congr 1
  funext c
  exact Bool.or_comm _ _

theorem filter_trimBy {p q : Char → Bool} (h : ∀ c, q c = true → p c = false)
    (chars : List Char) : (trimBy p chars).filter q = chars.filter q := by
  have hnone : ∀ chars : List Char, (∀ c ∈ chars, p c = true) → chars.filter q = [] := by
    intro chars hall
    rw [List.filter_eq_nil_iff]
    intro c hmem hq
    exact absurd (hall c hmem) (by simp [h c hq])
  obtain ⟨front, back, hchars, hfront, hback⟩ := exists_trimBy p chars
  conv_rhs => rw [hchars]
  rw [List.filter_append, List.filter_append, hnone front hfront, hnone back hback,
    List.nil_append, List.append_nil]

theorem isWhitespace_of_isDigit {c : Char} (h : c.isDigit = true) : isWhitespace c = false := by
  have hrange := Char.isDigit_iff_toNat.mp h
  have hlow : 48 ≤ c.toNat := hrange.1
  have hhigh : c.toNat ≤ 57 := hrange.2
  simp only [isWhitespace, Bool.or_eq_false_iff, Bool.and_eq_false_iff, decide_eq_false_iff_not]
  omega

theorem trimmed_toString (n : Nat) : Trimmed (toString n) := by
  apply trimmed_of_forall
  intro c hmem
  rw [toList_toString] at hmem
  exact isWhitespace_of_isDigit (Nat.isDigit_of_mem_toDigits (by decide) (by decide) hmem)

theorem toString_ne_empty (n : Nat) : toString n ≠ "" := by
  intro h
  have hlist := congrArg String.toList h
  rw [toList_toString] at hlist
  exact Nat.toDigits_ne_nil hlist

/-! Letter case. -/

theorem toNat_toLower (c : Char) :
    c.toLower.toNat = if 65 ≤ c.toNat ∧ c.toNat ≤ 90 then c.toNat + 32 else c.toNat := by
  unfold Char.toLower
  by_cases hupper : 65 ≤ c.toNat ∧ c.toNat ≤ 90
  · have hrange : c.val ≥ 'A'.val ∧ c.val ≤ 'Z'.val := by
      simp only [ge_iff_le, UInt32.le_iff_toNat_le]
      exact hupper
    have hlt : c.val.toNat + 32 < 2 ^ 32 := by
      have hhigh := hupper.2
      change c.val.toNat ≤ 90 at hhigh
      omega
    rw [dif_pos hrange, if_pos hupper]
    change (c.val + 32).toNat = c.val.toNat + 32
    rw [UInt32.toNat_add]
    exact Nat.mod_eq_of_lt hlt
  · rw [dif_neg, if_neg hupper]
    intro hrange
    simp only [ge_iff_le, UInt32.le_iff_toNat_le] at hrange
    exact hupper hrange

theorem toLower_toLower (c : Char) : c.toLower.toLower = c.toLower := by
  apply Char.toNat_inj.mp
  rw [toNat_toLower c.toLower, toNat_toLower c]
  split
  · rw [if_neg (by omega)]
  · rfl

/-- The letters of a hexadecimal text may be of either case. -/
theorem isAsciiHexDigit_toLower (c : Char) : isAsciiHexDigit c.toLower = isAsciiHexDigit c := by
  have h0 : '0'.toNat = 48 := rfl
  have h9 : '9'.toNat = 57 := rfl
  rw [Bool.eq_iff_iff]
  simp only [isAsciiHexDigit, Bool.or_eq_true, Bool.and_eq_true, decide_eq_true_eq,
    Char.isDigit_iff_toNat, toNat_toLower]
  split
  · omega
  · rfl

/-- A change of the letters that keeps white space commutes with trimming. -/
theorem trimBy_map {p : Char → Bool} {f : Char → Char} (hf : ∀ c, p (f c) = p c)
    (chars : List Char) : trimBy p (chars.map f) = (trimBy p chars).map f := by
  have hcomp : p ∘ f = p := funext hf
  unfold trimBy
  rw [List.dropWhile_map, hcomp, ← List.map_reverse, List.dropWhile_map, hcomp, ← List.map_reverse]

theorem isWhitespace_toLower (c : Char) : isWhitespace c.toLower = isWhitespace c := by
  have hnat := toNat_toLower c
  unfold isWhitespace
  rw [hnat]
  split
  · rw [Bool.eq_iff_iff]
    simp only [Bool.or_eq_true, Bool.and_eq_true, decide_eq_true_eq]
    omega
  · rfl

end NostrDoubleRatchet
