import GrammarWorkbench.Proofs.Text.Bytes
import GrammarWorkbench.Text.Order
import Mathlib.Data.List.Basic

/-!
# The order of texts and of their bytes

Texts are ordered by their characters, and this is the order of their UTF-8 forms as well
(`GrammarWorkbench.Text.bytes_lt_bytes_iff`). A character with more bytes has a greater first byte.
Where the numbers of bytes agree, the bytes are digits of the code point: each byte after the first
holds six bits of it, and a code point is written with the greatest digits first
(`GrammarWorkbench.Text.Increasing.digit`).
-/

namespace GrammarWorkbench.Text

variable {s t u : Text} {a b : Char} {m n limit : Nat} {f : Nat → List UInt8}

/-! ### The order of texts -/

theorem le_refl (t : Text) : le t t = true := by
  induction t with
  | nil => rfl
  | cons c t ih => rw [le, if_pos rfl, ih]

theorem le_cons_iff : le (a :: s) (b :: t) = true ↔
    a = b ∧ le s t = true ∨ a.toNat < b.toNat := by
  rw [le]
  by_cases h : a = b
  · subst h
    simp
  · simp [h]

theorem le_trans (hst : le s t = true) (htu : le t u = true) : le s u = true := by
  induction s generalizing t u with
  | nil => rfl
  | cons a s ih =>
    cases t with
    | nil => cases hst
    | cons b t =>
      cases u with
      | nil => cases htu
      | cons c u =>
        rw [le_cons_iff] at *
        rcases hst with ⟨rfl, hst⟩ | hst
        · rcases htu with ⟨rfl, htu⟩ | htu
          · exact Or.inl ⟨rfl, ih hst htu⟩
          · exact Or.inr htu
        · rcases htu with ⟨rfl, -⟩ | htu
          · exact Or.inr hst
          · exact Or.inr (Nat.lt_trans hst htu)

theorem le_total (s t : Text) : le s t = true ∨ le t s = true := by
  induction s generalizing t with
  | nil => exact Or.inl rfl
  | cons a s ih =>
    cases t with
    | nil => exact Or.inr rfl
    | cons b t =>
      rw [le_cons_iff, le_cons_iff]
      rcases Nat.lt_trichotomy a.toNat b.toNat with h | h | h
      · exact Or.inl (Or.inr h)
      · obtain rfl := Char.toNat_inj.mp h
        exact (ih t).imp (fun h => Or.inl ⟨rfl, h⟩) fun h => Or.inl ⟨rfl, h⟩
      · exact Or.inr (Or.inr h)

/-! ### The order of bytes -/

theorem ofNat_lt_ofNat (h : m < n) (hn : n < 256) : UInt8.ofNat m < UInt8.ofNat n := by
  rw [UInt8.lt_iff_toNat_lt, UInt8.toNat_ofNat', UInt8.toNat_ofNat', Nat.mod_eq_of_lt hn,
    Nat.mod_eq_of_lt (Nat.lt_trans h hn)]
  exact h

theorem cons_lt_cons_of_lt (h : m < n) (hn : n < 256) (u v : List UInt8) :
    UInt8.ofNat m :: u < UInt8.ofNat n :: v :=
  List.cons_lt_cons_iff.mpr (Or.inl (ofNat_lt_ofNat h hn))

/-- **The bytes of numbers below a limit increase** with the numbers, whatever comes after them. -/
def Increasing (limit : Nat) (f : Nat → List UInt8) : Prop :=
  ∀ m n, m < n → n < limit → ∀ u v, f m ++ u < f n ++ v

/-- A single byte, with a mark in its upper bits. -/
theorem increasing_lead {lead : Nat} (h : limit + lead ≤ 256) :
    Increasing limit fun n => [UInt8.ofNat (n % limit + lead)] := by
  intro m n hlt hn u v
  dsimp only
  rw [Nat.mod_eq_of_lt hn, Nat.mod_eq_of_lt (Nat.lt_trans hlt hn)]
  exact cons_lt_cons_of_lt (by omega) (by omega) u v

/-- **One more digit**: a byte with the last six bits of a number. -/
theorem Increasing.digit (h : Increasing limit f) :
    Increasing (64 * limit) fun n => f (n / 64) ++ [UInt8.ofNat (n % 64 + 128)] := by
  intro m n hlt hn u v
  dsimp only
  rw [List.append_assoc, List.append_assoc]
  rcases Nat.lt_or_ge (m / 64) (n / 64) with hdiv | hdiv
  · exact h _ _ hdiv (by omega) _ _
  · have heq : m / 64 = n / 64 := by omega
    rw [heq]
    exact List.append_left_lt (cons_lt_cons_of_lt (by omega) (by omega) u v)

/-! ### Two, three and four bytes -/

theorem increasing_two :
    Increasing 0x800 fun n => [UInt8.ofNat (n / 64 % 32 + 192), UInt8.ofNat (n % 64 + 128)] := by
  have hlead : Increasing 32 fun n => [UInt8.ofNat (n % 32 + 192)] := increasing_lead (by decide)
  exact hlead.digit

theorem increasing_three :
    Increasing 0x10000 fun n => [UInt8.ofNat (n / 4096 % 16 + 224),
      UInt8.ofNat (n / 64 % 64 + 128), UInt8.ofNat (n % 64 + 128)] := by
  have hlead : Increasing 16 fun n => [UInt8.ofNat (n % 16 + 224)] := increasing_lead (by decide)
  have hdigits := hlead.digit.digit
  simpa only [Nat.div_div_eq_div_mul, Nat.reduceMul, List.cons_append, List.nil_append]
    using hdigits

theorem increasing_four :
    Increasing 0x200000 fun n => [UInt8.ofNat (n / 262144 % 8 + 240),
      UInt8.ofNat (n / 4096 % 64 + 128), UInt8.ofNat (n / 64 % 64 + 128),
      UInt8.ofNat (n % 64 + 128)] := by
  have hlead : Increasing 8 fun n => [UInt8.ofNat (n % 8 + 240)] := increasing_lead (by decide)
  have hdigits := hlead.digit.digit.digit
  simpa only [Nat.div_div_eq_div_mul, Nat.reduceMul, List.cons_append, List.nil_append]
    using hdigits

theorem val_lt (c : Char) : c.val.toNat < 0x110000 := by
  have hvalid := c.valid
  simp only [UInt32.isValidChar, Nat.isValidChar] at hvalid
  omega

/-- **The bytes of a character**, by how many there are. -/
theorem utf8EncodeChar_cases (c : Char) {n : Nat} (hn : c.val.toNat = n) :
    n < 0x80 ∧ String.utf8EncodeChar c = [UInt8.ofNat n] ∨
      0x80 ≤ n ∧ n < 0x800 ∧ String.utf8EncodeChar c =
        [UInt8.ofNat (n / 64 % 32 + 192), UInt8.ofNat (n % 64 + 128)] ∨
      0x800 ≤ n ∧ n < 0x10000 ∧ String.utf8EncodeChar c =
        [UInt8.ofNat (n / 4096 % 16 + 224), UInt8.ofNat (n / 64 % 64 + 128),
          UInt8.ofNat (n % 64 + 128)] ∨
      0x10000 ≤ n ∧ n < 0x200000 ∧ String.utf8EncodeChar c =
        [UInt8.ofNat (n / 262144 % 8 + 240), UInt8.ofNat (n / 4096 % 64 + 128),
          UInt8.ofNat (n / 64 % 64 + 128), UInt8.ofNat (n % 64 + 128)] := by
  have hlimit := hn ▸ val_lt c
  simp only [String.utf8EncodeChar, hn]
  split
  · exact Or.inl ⟨by omega, rfl⟩
  split
  · exact Or.inr (Or.inl ⟨by omega, by omega, rfl⟩)
  split
  · exact Or.inr (Or.inr (Or.inl ⟨by omega, by omega, rfl⟩))
  · exact Or.inr (Or.inr (Or.inr ⟨by omega, by omega, rfl⟩))

/-- **A greater character has greater bytes**, whatever comes after them. More bytes show in the
first one; the others are compared only where there are as many. -/
theorem utf8EncodeChar_append_lt (h : a.toNat < b.toNat) (u v : List UInt8) :
    String.utf8EncodeChar a ++ u < String.utf8EncodeChar b ++ v := by
  obtain ⟨m, hm⟩ : ∃ m, a.val.toNat = m := ⟨_, rfl⟩
  obtain ⟨n, hn⟩ : ∃ n, b.val.toNat = n := ⟨_, rfl⟩
  have hlt : m < n := hm ▸ hn ▸ h
  clear h
  rcases utf8EncodeChar_cases a hm with ⟨ha, heq⟩ | ⟨ha', ha, heq⟩ | ⟨ha', ha, heq⟩ |
    ⟨ha', ha, heq⟩
  all_goals
    rcases utf8EncodeChar_cases b hn with ⟨hb, heq'⟩ | ⟨hb', hb, heq'⟩ | ⟨hb', hb, heq'⟩ |
      ⟨hb', hb, heq'⟩
  all_goals rw [heq, heq']
  all_goals clear hm hn heq heq'
  all_goals first
    | omega
    | exact increasing_two m n hlt hb u v
    | exact increasing_three m n hlt hb u v
    | exact increasing_four m n hlt hb u v
    | exact cons_lt_cons_of_lt (by omega) (by omega) _ _

/-- **Texts are ordered like their bytes.** -/
theorem bytes_lt_bytes (hle : le s t = true) (hne : s ≠ t) : s.bytes < t.bytes := by
  induction s generalizing t with
  | nil =>
    cases t with
    | nil => exact absurd rfl hne
    | cons b t =>
      have hbytes : bytes (b :: t) ≠ [] := by simp
      obtain ⟨x, more, hmore⟩ := List.exists_cons_of_ne_nil hbytes
      rw [hmore]
      exact List.nil_lt_cons x more
  | cons a s ih =>
    cases t with
    | nil => cases hle
    | cons b t =>
      rw [bytes_cons, bytes_cons]
      rcases le_cons_iff.mp hle with ⟨rfl, htail⟩ | hlt
      · exact List.append_left_lt (ih htail fun h => hne (h ▸ rfl))
      · exact utf8EncodeChar_append_lt hlt _ _

theorem bytes_lt_bytes_iff : s.bytes < t.bytes ↔ le s t = true ∧ s ≠ t := by
  refine ⟨fun h => ?_, fun ⟨hle, hne⟩ => bytes_lt_bytes hle hne⟩
  have hne : s ≠ t := by
    rintro rfl
    exact List.lt_irrefl _ h
  refine ⟨?_, hne⟩
  rcases le_total s t with hle | hle
  · exact hle
  · exact absurd h (List.lt_asymm (bytes_lt_bytes hle hne.symm))

theorem le_antisymm (hst : le s t = true) (hts : le t s = true) : s = t := by
  by_contra hne
  exact List.lt_asymm (bytes_lt_bytes hst hne) (bytes_lt_bytes hts (Ne.symm hne))

end GrammarWorkbench.Text
