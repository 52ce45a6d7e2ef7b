import Mathlib
import Pseudoword.Proofs.Picking

/-! # Rounded quotients

A level is a quotient of two natural numbers, rounded once. This file says what rounding means, without
shifts and remainders: no number is nearer to the quotient than the rounded one, and of two that are
equally near, the one of even rank is taken. From this follow that rounding keeps the order of quotients
and, for denominators that are not too large, tells any two of them apart.

* **`Binary64.units_strictMono`** — values increase with ranks.
* **`Binary64.offset n d x`** — how far a number is from the quotient of `n` by `d`.
* **`Binary64.IsRounding n d x`** — the number is the rounded quotient, with `IsRounding.eq_ofRatio`.
* **`Binary64.isRounding_ofRatio`** — the quotient of the library is this one.
* **`Binary64.ofRatio_le_ofRatio`**, **`Binary64.ofRatio_lt_ofRatio`** — rounded quotients in order. -/

namespace Pseudoword.Binary64

protected theorem le_antisymm {x y : Binary64} (h : x ≤ y) (h' : y ≤ x) : x = y :=
  congrArg Binary64.mk (Nat.le_antisymm h h')

theorem binade_eq : binade = 2 ^ 52 := rfl

theorem binade_pos : 0 < binade := Nat.two_pow_pos 52

theorem resolution_pos : 0 < resolution := by decide +kernel

/-- How many smallest numbers lie between one and the number before it. -/
def spacing : Nat := Nat.pow 2 1021

theorem resolution_eq : resolution = 2 ^ 53 * spacing := by decide +kernel

theorem exists_spacing_eq : ∃ shift, spacing = 2 ^ shift := ⟨1021, by decide +kernel⟩

theorem spacing_pos : 0 < spacing := by decide +kernel

/-! ## (1) The nearest natural number -/

/-- **A rounded quotient is off by half a unit at most.** -/
theorem two_mul_dist_roundDiv_le (n : Nat) {d : Nat} (hd : 0 < d) :
    2 * Nat.dist (roundDiv n d * d) n ≤ d := by
  have hdiv := Nat.div_add_mod' n d
  have hmod := Nat.mod_lt n hd
  have hsucc : (n / d + 1) * d = n / d * d + d := Nat.succ_mul _ _
  unfold roundDiv
  dsimp only
  split
  · simp only [Nat.dist]
    omega
  · split
    · rw [hsucc]
      simp only [Nat.dist]
      omega
    · -- a tie, of which the even quotient is taken
      rcases Nat.mod_two_eq_zero_or_one (n / d) with heven | hodd
      · rw [heven, Nat.add_zero]
        simp only [Nat.dist]
        omega
      · rw [hodd, hsucc]
        simp only [Nat.dist]
        omega

/-- Multiples of two numbers are a unit apart, at least. -/
theorem le_dist_mul {k q : Nat} (h : k ≠ q) (d : Nat) : d ≤ Nat.dist (k * d) (q * d) := by
  rw [Nat.dist_mul_right]
  exact Nat.le_mul_of_pos_left d (Nat.dist_pos_of_ne h)

/-- **No multiple is nearer** than that of the rounded quotient. -/
theorem dist_roundDiv_le (n : Nat) {d : Nat} (hd : 0 < d) (k : Nat) :
    Nat.dist (roundDiv n d * d) n ≤ Nat.dist (k * d) n := by
  rcases eq_or_ne k (roundDiv n d) with rfl | hne
  · exact le_rfl
  · have hhalf := two_mul_dist_roundDiv_le n hd
    have hapart := le_dist_mul hne d
    have htriangle := Nat.dist.triangle_inequality (k * d) n (roundDiv n d * d)
    rw [Nat.dist_comm n] at htriangle
    omega

/-- **Of two multiples that are equally near, the even one is taken.** -/
theorem even_roundDiv_of_dist_eq {n d k : Nat} (hd : 0 < d) (hne : k ≠ roundDiv n d)
    (heq : Nat.dist (k * d) n = Nat.dist (roundDiv n d * d) n) : roundDiv n d % 2 = 0 := by
  -- the two are a unit apart, so that both are off by half a unit
  have hhalf : d ≤ 2 * Nat.dist (roundDiv n d * d) n := by
    have hapart := le_dist_mul hne d
    have htriangle := Nat.dist.triangle_inequality (k * d) n (roundDiv n d * d)
    rw [Nat.dist_comm n] at htriangle
    omega
  have hdiv := Nat.div_add_mod' n d
  have hmod := Nat.mod_lt n hd
  have hsucc : (n / d + 1) * d = n / d * d + d := Nat.succ_mul _ _
  unfold roundDiv at hhalf ⊢
  dsimp only at hhalf ⊢
  split at hhalf
  · simp only [Nat.dist] at hhalf
    omega
  · split at hhalf
    · rw [hsucc] at hhalf
      simp only [Nat.dist] at hhalf
      omega
    · next hbelow habove =>
      rw [if_neg hbelow, if_neg habove]
      omega

/-- The rounded quotient of a multiple is exact. -/
theorem dist_roundDiv_of_dvd {n d : Nat} (hd : 0 < d) (h : d ∣ n) :
    Nat.dist (roundDiv n d * d) n = 0 := by
  obtain ⟨k, rfl⟩ := h
  have hle := dist_roundDiv_le (d * k) hd k
  rw [Nat.mul_comm k d, Nat.dist_self] at hle
  exact Nat.le_zero.mp hle

/-- A quotient is rounded to a bound at most, if that is not below the quotient. -/
theorem roundDiv_le {n d k : Nat} (hd : 0 < d) (h : n ≤ k * d) : roundDiv n d ≤ k := by
  by_contra hlt
  have hhalf := two_mul_dist_roundDiv_le n hd
  have hmul : (k + 1) * d ≤ roundDiv n d * d := Nat.mul_le_mul_right d (not_le.mp hlt)
  rw [Nat.succ_mul] at hmul
  rw [Nat.dist_eq_sub_of_le_right (by omega)] at hhalf
  omega

/-- A quotient is rounded to a bound at least, if that is not above the quotient. -/
theorem le_roundDiv {n d k : Nat} (hd : 0 < d) (h : k * d ≤ n) : k ≤ roundDiv n d := by
  by_contra hlt
  have hhalf := two_mul_dist_roundDiv_le n hd
  have hmul : (roundDiv n d + 1) * d ≤ k * d := Nat.mul_le_mul_right d (not_le.mp hlt)
  rw [Nat.succ_mul] at hmul
  rw [Nat.dist_eq_sub_of_le (by omega)] at hhalf
  omega

/-! ## (2) Values -/

/-- **The value of a number by shift and significand**: a significand of one binade, or of the next one,
counts units of a power of two; below the first binade the shift is zero. -/
theorem units_mk {shift q : Nat} (hq : q ≤ 2 * binade) (hlow : shift = 0 ∨ binade ≤ q) :
    units ⟨shift * binade + q⟩ = q * 2 ^ shift := by
  have hpos := binade_pos
  rcases Nat.lt_or_ge q binade with hlt | hge
  · -- the numbers before the first power of two
    obtain rfl : shift = 0 := hlow.resolve_right (Nat.not_le.mpr hlt)
    rw [units, if_pos (by simpa using hlt)]
    simp
  · have hbinade : ¬ shift * binade + q < binade :=
      Nat.not_lt.mpr (le_trans hge (Nat.le_add_left _ _))
    rcases Nat.lt_or_eq_of_le hq with hlt | rfl
    · -- a significand of 53 bits
      have hsplit : shift * binade + q = (q - binade) + binade * (shift + 1) := by
        rw [Nat.mul_succ, Nat.mul_comm]
        omega
      have hrest : q - binade < binade := by omega
      rw [units, if_neg hbinade]
      dsimp only
      rw [hsplit, Nat.add_mul_mod_self_left, Nat.mod_eq_of_lt hrest,
        Nat.add_mul_div_left _ _ hpos, Nat.div_eq_of_lt hrest, Nat.zero_add, Nat.add_sub_cancel,
        Nat.sub_add_cancel hge]
      rfl
    · -- the first number of the next binade
      have hsplit : shift * binade + 2 * binade = 0 + binade * (shift + 2) := by ring
      rw [units, if_neg hbinade]
      dsimp only
      rw [hsplit, Nat.add_mul_mod_self_left, Nat.zero_mod, Nat.add_mul_div_left _ _ hpos,
        Nat.zero_div, Nat.zero_add, Nat.zero_add]
      change binade * 2 ^ (shift + 1) = 2 * binade * 2 ^ shift
      ring

/-- Every rank has a shift and a significand. -/
theorem exists_shift (rank : Nat) :
    ∃ shift q, rank = shift * binade + q ∧ q < 2 * binade ∧ (shift = 0 ∨ binade ≤ q) := by
  have hdiv := Nat.div_add_mod' rank binade
  have hmod := Nat.mod_lt rank binade_pos
  rcases Nat.eq_zero_or_pos (rank / binade) with hzero | hpos
  · rw [hzero, Nat.zero_mul] at hdiv
    exact ⟨0, rank, by simp, by omega, .inl rfl⟩
  · obtain ⟨shift, hshift⟩ := Nat.exists_eq_succ_of_ne_zero hpos.ne'
    rw [hshift, Nat.succ_mul] at hdiv
    exact ⟨shift, binade + rank % binade, by omega, by omega, .inr (Nat.le_add_right _ _)⟩

/-- **Values increase with ranks.** -/
theorem units_strictMono : StrictMono fun rank => units ⟨rank⟩ := by
  apply strictMono_nat_of_lt_succ
  intro rank
  obtain ⟨shift, q, rfl, hq, hlow⟩ := exists_shift rank
  rw [Nat.add_assoc, units_mk hq.le hlow, units_mk hq (hlow.imp_right Nat.le_succ_of_le)]
  exact Nat.mul_lt_mul_of_pos_right (Nat.lt_succ_self q) (Nat.two_pow_pos shift)

/-- Values are in the order of their ranks. -/
theorem units_lt_units_iff {x y : Binary64} : x.units < y.units ↔ x < y :=
  units_strictMono.lt_iff_lt

theorem units_inj {x y : Binary64} (h : x.units = y.units) : x = y :=
  congrArg Binary64.mk (units_strictMono.injective h)

/-! ## (3) What rounding means -/

/-- **How far a number is from a quotient**, in fractions, by the denominator, of the smallest one. -/
def offset (n d : Nat) (x : Binary64) : Nat :=
  Nat.dist (x.units * d) (n * resolution)

/-- **The rounded quotient of two numbers**: none is nearer to the quotient, and if another number is
equally near, the rank of this one is even. -/
structure IsRounding (n d : Nat) (x : Binary64) : Prop where
  /-- No number is nearer. -/
  nearest : ∀ y, offset n d x ≤ offset n d y
  /-- A tie is decided for the number of even rank. -/
  even_of_tie : ∀ y, y ≠ x → offset n d y = offset n d x → x.rank % 2 = 0

/-! ## (4) The quotient of the library -/

/-- The shift at which a quotient is rounded. -/
def shiftOf (n d : Nat) : Nat :=
  (n * resolution / d).log2 - 52

/-- The unit at which a quotient is rounded, in fractions of the smallest number. -/
def unitOf (n d : Nat) : Nat :=
  d * 2 ^ shiftOf n d

/-- The rounded significand of a quotient. -/
def significand (n d : Nat) : Nat :=
  roundDiv (n * resolution) (unitOf n d)

theorem ofRatio_eq (n d : Nat) : ofRatio n d = ⟨shiftOf n d * binade + significand n d⟩ := rfl

variable {n m d : Nat}

theorem unitOf_pos (n : Nat) (hd : 0 < d) : 0 < unitOf n d :=
  Nat.mul_pos hd (Nat.two_pow_pos _)

/-- A quotient is less than the first significand with 54 bits. -/
theorem scaled_lt (n : Nat) (hd : 0 < d) : n * resolution < 2 * binade * unitOf n d := by
  have hbits : n * resolution / d < 2 ^ (shiftOf n d + 53) :=
    lt_of_lt_of_le Nat.lt_log2_self (Nat.pow_le_pow_right Nat.two_pos (by rw [shiftOf]; omega))
  calc n * resolution
      < 2 ^ (shiftOf n d + 53) * d := (Nat.div_lt_iff_lt_mul hd).mp hbits
    _ = 2 * binade * unitOf n d := by
        rw [pow_add, binade_eq, unitOf]
        ring

/-- With a shift, a quotient is at least the first significand with 53 bits. -/
theorem le_scaled (hd : 0 < d) (hshift : shiftOf n d ≠ 0) :
    binade * unitOf n d ≤ n * resolution := by
  have hlog : (n * resolution / d).log2 = shiftOf n d + 52 := by
    rw [shiftOf] at hshift ⊢
    omega
  have hne : n * resolution / d ≠ 0 := by
    intro hzero
    rw [hzero, Nat.log2_zero] at hlog
    omega
  calc binade * unitOf n d
      = 2 ^ (shiftOf n d + 52) * d := by
        rw [pow_add, binade_eq, unitOf]
        ring
    _ ≤ n * resolution := by
        rw [← hlog]
        exact (Nat.le_div_iff_mul_le hd).mp (Nat.log2_self_le hne)

/-- **The value of a quotient** is a multiple of its unit, by the rounded significand. -/
theorem units_ofRatio_mul (n : Nat) (hd : 0 < d) :
    (ofRatio n d).units * d = significand n d * unitOf n d := by
  have hhigh : significand n d ≤ 2 * binade := roundDiv_le (unitOf_pos n hd) (scaled_lt n hd).le
  have hlow : shiftOf n d = 0 ∨ binade ≤ significand n d := by
    rcases Nat.eq_zero_or_pos (shiftOf n d) with hzero | hpos
    · exact .inl hzero
    · exact .inr (le_roundDiv (unitOf_pos n hd) (le_scaled hd hpos.ne'))
  rw [ofRatio_eq, units_mk hhigh hlow, unitOf]
  ring

/-- **A number is a multiple of the unit at which a quotient is rounded**, or it lies below all
significands of 53 bits, and is farther away than the rounded quotient. -/
theorem eq_mul_or_offset_lt (n : Nat) (hd : 0 < d) (y : Binary64) :
    (∃ k, y.units * d = k * unitOf n d) ∨ offset n d (ofRatio n d) < offset n d y := by
  obtain ⟨shift, q, hrank, hq, hlow⟩ := exists_shift y.rank
  have hy : y.units = q * 2 ^ shift := by
    rw [← units_mk hq.le hlow, ← hrank]
  rcases Nat.lt_or_ge shift (shiftOf n d) with hlt | hge
  · -- a smaller shift leaves the number below the first significand of 53 bits
    right
    have hscaled := le_scaled hd (Nat.ne_of_gt (Nat.zero_lt_of_lt hlt))
    have hbelow : y.units * d < binade * unitOf n d := by
      calc y.units * d
          < 2 * binade * 2 ^ shift * d := by
            rw [hy]
            gcongr
        _ = binade * (d * 2 ^ (shift + 1)) := by
            rw [pow_succ]
            ring
        _ ≤ binade * unitOf n d := by
            rw [unitOf]
            gcongr
            · exact one_le_two
            · exact hlt
    have hnearest := dist_roundDiv_le (n * resolution) (unitOf_pos n hd) binade
    rw [offset, units_ofRatio_mul n hd, offset]
    refine lt_of_le_of_lt hnearest ?_
    rw [Nat.dist_eq_sub_of_le hscaled, Nat.dist_eq_sub_of_le (hbelow.le.trans hscaled)]
    omega
  · left
    obtain ⟨more, hmore⟩ := Nat.exists_eq_add_of_le hge
    refine ⟨q * 2 ^ more, ?_⟩
    rw [hy, hmore, pow_add, unitOf]
    ring

/-- **The quotient of the library is the rounded quotient.** -/
theorem isRounding_ofRatio (n : Nat) (hd : 0 < d) : IsRounding n d (ofRatio n d) where
  nearest := fun y => by
    rcases eq_mul_or_offset_lt n hd y with ⟨k, hk⟩ | hlt
    · rw [offset, offset, hk, units_ofRatio_mul n hd]
      exact dist_roundDiv_le _ (unitOf_pos n hd) k
    · exact hlt.le
  even_of_tie := fun y hne htie => by
    rcases eq_mul_or_offset_lt n hd y with ⟨k, hk⟩ | hlt
    · have hunits := units_ofRatio_mul n hd
      have hk' : k ≠ significand n d := by
        rintro rfl
        rw [← hunits] at hk
        exact hne (units_inj (Nat.eq_of_mul_eq_mul_right hd hk))
      rw [offset, offset, hk, hunits] at htie
      have heven : significand n d % 2 = 0 :=
        even_roundDiv_of_dist_eq (unitOf_pos n hd) hk' htie
      -- shifts are whole binades, which do not change the parity
      have hbinade : binade = 2 * 2 ^ 51 := rfl
      rw [ofRatio_eq, hbinade, Nat.mul_left_comm]
      dsimp only
      rw [Nat.mul_add_mod, heven]
    · exact absurd htie (Nat.ne_of_gt hlt)

/-- Of two numbers that are equally near, with another one between them, neither is the nearest. -/
theorem IsRounding.not_lt (hd : 0 < d) {x y : Binary64} (hx : IsRounding n d x)
    (hy : IsRounding n d y) : ¬ x < y := by
  intro hlt
  have htie : offset n d x = offset n d y := le_antisymm (hx.nearest y) (hy.nearest x)
  have hne : x ≠ y := by
    rintro rfl
    exact Nat.lt_irrefl _ hlt
  have hx' := hx.even_of_tie y hne.symm htie.symm
  have hy' := hy.even_of_tie x hne htie
  -- both ranks are even, so that the next number lies between
  rw [lt_def] at hlt
  have hlow : x.units * d < units ⟨x.rank + 1⟩ * d :=
    Nat.mul_lt_mul_of_pos_right (units_lt_units_iff.mpr (Nat.lt_succ_self x.rank)) hd
  have hhigh : units ⟨x.rank + 1⟩ * d < y.units * d :=
    Nat.mul_lt_mul_of_pos_right (units_lt_units_iff.mpr (show x.rank + 1 < y.rank by omega)) hd
  have hnearest := hx.nearest ⟨x.rank + 1⟩
  simp only [offset, Nat.dist] at htie hnearest
  omega

/-- **There is one rounded quotient only.** -/
theorem IsRounding.eq_ofRatio (hd : 0 < d) {x : Binary64} (hx : IsRounding n d x) :
    x = ofRatio n d := by
  have hbelow := hx.not_lt hd (isRounding_ofRatio n hd)
  have habove := (isRounding_ofRatio n hd).not_lt hd hx
  rw [lt_def] at hbelow habove
  exact congrArg Binary64.mk (show x.rank = (ofRatio n d).rank by omega)

/-! ## (5) Quotients in order -/

/-- **Rounding keeps the order of quotients.** -/
theorem ofRatio_le_ofRatio (h : n ≤ m) (hd : 0 < d) : ofRatio n d ≤ ofRatio m d := by
  rcases Nat.eq_or_lt_of_le h with rfl | h
  · exact Nat.le_refl _
  · -- otherwise the first quotient would lie above the middle of the two, and the second below
    by_contra hnot
    have hlt : (ofRatio m d).units * d < (ofRatio n d).units * d :=
      Nat.mul_lt_mul_of_pos_right (units_lt_units_iff.mpr (Nat.lt_of_not_le hnot)) hd
    have hscaled : n * resolution < m * resolution := Nat.mul_lt_mul_of_pos_right h resolution_pos
    have hn := (isRounding_ofRatio n hd).nearest (ofRatio m d)
    have hm := (isRounding_ofRatio m hd).nearest (ofRatio n d)
    simp only [offset, Nat.dist] at hn hm
    omega

/-- Below one, quotients are rounded at least as finely as numbers just before one are spaced. -/
theorem two_pow_shiftOf_dvd_spacing (h : n < d) : 2 ^ shiftOf n d ∣ spacing := by
  obtain ⟨shift, hshift⟩ := exists_spacing_eq
  have hlt : n * resolution / d < 2 ^ (53 + shift) := by
    rw [Nat.div_lt_iff_lt_mul (Nat.zero_lt_of_lt h), pow_add, ← hshift, ← resolution_eq, Nat.mul_comm]
    exact Nat.mul_lt_mul_of_pos_left h resolution_pos
  have hlog : (n * resolution / d).log2 < 53 + shift := by
    rcases Nat.eq_zero_or_pos (n * resolution / d) with hzero | hpos
    · rw [hzero, Nat.log2_zero]
      omega
    · exact (Nat.log2_lt hpos.ne').mpr hlt
  rw [hshift]
  refine Nat.pow_dvd_pow 2 ?_
  rw [shiftOf]
  omega

/-- **Quotients of small numbers are off by less than half the distance between two of them.** -/
theorem two_mul_offset_lt (hd : 0 < d) (hsmall : d ≤ 2 ^ 53) (h : n ≤ d) :
    2 * offset n d (ofRatio n d) < resolution := by
  rcases Nat.eq_or_lt_of_le h with rfl | h
  · have hone : one.units = resolution := by decide +kernel
    rw [ofRatio_self hd, offset, hone, Nat.mul_comm resolution, Nat.dist_self, Nat.mul_zero]
    exact resolution_pos
  · have hshift := two_pow_shiftOf_dvd_spacing h
    rw [offset, units_ofRatio_mul n hd]
    rcases Nat.eq_or_lt_of_le hsmall with heq | hlt
    · -- with the largest denominator, quotients are exact
      have hdvd : unitOf n d ∣ n * resolution := by
        rw [unitOf, resolution_eq, heq]
        exact (Nat.mul_dvd_mul_left _ (heq ▸ hshift)).mul_left n
      rw [significand, dist_roundDiv_of_dvd (unitOf_pos n hd) hdvd]
      exact resolution_pos
    · calc 2 * Nat.dist (significand n d * unitOf n d) (n * resolution)
          ≤ d * 2 ^ shiftOf n d := two_mul_dist_roundDiv_le _ (unitOf_pos n hd)
        _ ≤ d * spacing := Nat.mul_le_mul_left d (Nat.le_of_dvd spacing_pos hshift)
        _ < 2 ^ 53 * spacing := Nat.mul_lt_mul_of_pos_right hlt spacing_pos
        _ = resolution := resolution_eq.symm

/-- **Rounding tells quotients of small numbers apart.** -/
theorem ofRatio_lt_ofRatio (h : n < m) (hm : m ≤ d) (hsmall : d ≤ 2 ^ 53) :
    ofRatio n d < ofRatio m d := by
  have hd : 0 < d := by omega
  refine Nat.lt_of_le_of_ne (ofRatio_le_ofRatio h.le hd) fun heq => ?_
  have hsame : ofRatio n d = ofRatio m d := congrArg Binary64.mk heq
  have hscaled : n * resolution + resolution ≤ m * resolution := by
    rw [← Nat.succ_mul]
    exact Nat.mul_le_mul_right _ h
  have hn := two_mul_offset_lt hd hsmall (h.le.trans hm)
  have hm := two_mul_offset_lt hd hsmall hm
  rw [← hsame] at hm
  simp only [offset, Nat.dist] at hn hm
  omega

/-- A part of a number is one at most. -/
theorem ofRatio_le_one (h : n ≤ d) (hd : 0 < d) : ofRatio n d ≤ one := by
  have hle := ofRatio_le_ofRatio h hd
  rwa [ofRatio_self hd] at hle

/-- A part of a small number is zero only if it is nothing. -/
theorem ofRatio_pos (hn : 0 < n) (h : n ≤ d) (hsmall : d ≤ 2 ^ 53) : zero < ofRatio n d := by
  have hlt := ofRatio_lt_ofRatio hn h hsmall
  rwa [ofRatio_zero] at hlt

end Pseudoword.Binary64
