import Mathlib.Algebra.Order.Group.Int
import Mathlib.Tactic.ByContra

/-!
# Time zones

A time zone tells how many minutes the local clock is ahead of UTC at an instant, always by less
than a day. It changes this offset rarely: two changes are 49 hours apart at least. So within 48
hours the offset is constant or takes two values, one after the other (`offsets_of_near`).

Instants are milliseconds since 1970. `wall` is the local clock at a whole minute, in minutes.
-/

structure TimeZone where
  offset : Int → Int
  bounded : ∀ t, -1440 < offset t ∧ offset t < 1440
  separated : ∀ t t', t < t' → offset (t - 1) ≠ offset t → offset (t' - 1) ≠ offset t' →
    176400000 ≤ t' - t

namespace TimeZone

variable (zone : TimeZone) {a b t : Int}

/-- The offset at a whole minute. -/
def minuteOffset (minute : Int) : Int := zone.offset (minute * 60000)

/-- The local clock at a whole minute. -/
def wall (minute : Int) : Int := minute + zone.minuteOffset minute

variable {zone}

theorem wall_bounds (minute : Int) :
    minute - 1440 < zone.wall minute ∧ zone.wall minute < minute + 1440 := by
  have hbounded := zone.bounded (minute * 60000)
  unfold wall minuteOffset
  omega

theorem offset_eq_of_no_change (hab : a ≤ b)
    (h : ∀ t, a < t → t ≤ b → zone.offset (t - 1) = zone.offset t) :
    zone.offset b = zone.offset a := by
  induction b, hab using Int.leInduction with
  | base => rfl
  | succ b hab ih =>
    rw [← h (b + 1) (by omega) le_rfl, Int.add_sub_cancel]
    exact ih fun t hat htb => h t hat (by omega)

/-- **Within 48 hours the offset takes at most two values**, one after the other. -/
theorem offsets_of_near (hab : a ≤ b) (hnear : b - a ≤ 172800000) :
    (∀ t, a ≤ t → t ≤ b → zone.offset t = zone.offset a) ∨
      ∃ change, a < change ∧ change ≤ b ∧
        (∀ t, a ≤ t → t < change → zone.offset t = zone.offset a) ∧
        (∀ t, change ≤ t → t ≤ b → zone.offset t = zone.offset b) ∧
        zone.offset a ≠ zone.offset b := by
  by_cases hchange : ∃ t, a < t ∧ t ≤ b ∧ zone.offset (t - 1) ≠ zone.offset t
  · obtain ⟨change, hafter, hbefore, hne⟩ := hchange
    have honly : ∀ t, a < t → t ≤ b → t ≠ change → zone.offset (t - 1) = zone.offset t := by
      intro t hat htb hnot
      by_contra hother
      rcases lt_or_gt_of_ne hnot with hlt | hgt
      · have := zone.separated t change hlt hother hne
        omega
      · have := zone.separated change t hgt hne hother
        omega
    have hearly : ∀ t, a ≤ t → t < change → zone.offset t = zone.offset a := fun t hat hlt =>
      offset_eq_of_no_change hat fun u hau hut => honly u hau (by omega) (by omega)
    have hlate : ∀ t, change ≤ t → t ≤ b → zone.offset b = zone.offset t := fun t hle htb =>
      offset_eq_of_no_change htb fun u htu hub => honly u (by omega) hub (by omega)
    refine .inr ⟨change, hafter, hbefore, hearly, fun t hle htb => (hlate t hle htb).symm, ?_⟩
    rw [← hearly (change - 1) (by omega) (by omega), hlate change le_rfl hbefore]
    exact hne
  · refine .inl fun t hat htb => offset_eq_of_no_change hat fun u hau hut => ?_
    by_contra hne
    exact hchange ⟨u, hau, by omega, hne⟩

theorem minuteOffsets_of_near (hab : a ≤ b) (hnear : b - a ≤ 2880) :
    (∀ k, a ≤ k → k ≤ b → zone.minuteOffset k = zone.minuteOffset a) ∨
      ∃ change, a < change ∧ change ≤ b ∧
        (∀ k, a ≤ k → k < change → zone.minuteOffset k = zone.minuteOffset a) ∧
        (∀ k, change ≤ k → k ≤ b → zone.minuteOffset k = zone.minuteOffset b) ∧
        zone.minuteOffset a ≠ zone.minuteOffset b := by
  unfold minuteOffset
  rcases @offsets_of_near zone (a * 60000) (b * 60000) (by omega) (by omega) with
    hsame | ⟨change, hafter, hbefore, hearly, hlate, hne⟩
  · exact .inl fun k hak hkb => hsame _ (by omega) (by omega)
  · refine .inr ⟨(change + 59999) / 60000, by omega, by omega, fun k hak hk => ?_,
      fun k hk hkb => ?_, hne⟩
    · exact hearly _ (by omega) (by omega)
    · exact hlate _ (by omega) (by omega)

/-- **After a change the local clock never shows an earlier time than at it**: it runs on for 48
hours, which is more than any offset. -/
theorem wall_change_le {change k : Int}
    (hne : zone.minuteOffset (change - 1) ≠ zone.minuteOffset change) (hk : change ≤ k) :
    zone.wall change ≤ zone.wall k := by
  have hchange := zone.bounded (change * 60000)
  have hbounds := zone.wall_bounds k
  by_cases hfar : change + 2879 < k
  · unfold wall minuteOffset at *
    omega
  · rcases @minuteOffsets_of_near zone (change - 1) (change + 2879) (by omega) (by omega) with
      hsame | ⟨other, hafter, hbefore, hearly, hlate, _⟩
    · exact absurd (hsame change (by omega) (by omega)).symm hne
    · have hother : other ≤ change := by
        by_contra hlt
        exact hne (hearly change (by omega) (by omega)).symm
      unfold wall
      rw [hlate change hother (by omega), hlate k (by omega) (by omega)]
      omega

end TimeZone
