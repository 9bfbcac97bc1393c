/-
Interpolation under an arbitrary rounding.

The fractions of a segment grow from zero to one, and the interpolated
configurations go monotonically, in each coordinate, from the first
waypoint to where the fraction one leads. Whether that is the last
waypoint is another matter (`Reproduces`): the builder takes the waypoint
as it is, `valid` interpolates it.
-/
import RbfSafe.Occupancy.Builder

namespace RbfSafe

variable {K : Type} [Field K] [LinearOrder K] {R : Rounding K}

-- === fractions

/-- The `fraction` of a tick. -/
def tickFraction {α : Type} [Scalar α] (first last : TimedConfiguration α)
    (tick : Nat) : α :=
  Scalar.div (Scalar.ofNat (tick - first.tick))
    (Scalar.ofNat (last.tick - first.tick))

theorem Rounded.ofNat_val (n : Nat) :
    (Scalar.ofNat n : Rounded R).1 = R.round n := by
  show R.round ((n : K) / 10 ^ 0) = R.round n
  rw [pow_zero, div_one]

theorem Rounded.one_val : (Scalar.one : Rounded R).1 = 1 := by
  show R.round (((1 : ℕ) : K) / 10 ^ 0) = 1
  rw [pow_zero, div_one, Nat.cast_one, R.one]

section
variable {first last : TimedConfiguration (Rounded R)}

theorem tickFraction_first :
    (tickFraction first last first.tick).1 = 0 := by
  rw [tickFraction, Rounded.div_val, Rounded.ofNat_val, Nat.sub_self,
    Nat.cast_zero, R.zero, zero_div, R.zero]

variable [IsStrictOrderedRing K]

theorem Rounded.ofNat_pos {n : Nat} (h : 0 < n) :
    0 < (Scalar.ofNat n : Rounded R).1 := by
  rw [ofNat_val]
  have hone : R.round 1 ≤ R.round (n : K) :=
    R.monotone (by exact_mod_cast h)
  rw [R.one] at hone
  exact one_pos.trans_le hone

theorem tickFraction_last (h : first.tick < last.tick) :
    tickFraction first last last.tick = Scalar.one := by
  have hpos := Rounded.ofNat_pos (R := R) (Nat.sub_pos_of_lt h)
  apply Rounded.ext
  rw [tickFraction, Rounded.div_val, div_self hpos.ne', R.one, Rounded.one_val]

theorem tickFraction_mono (h : first.tick < last.tick) {s t : Nat}
    (hst : s ≤ t) :
    (tickFraction first last s).1 ≤ (tickFraction first last t).1 := by
  have hpos := Rounded.ofNat_pos (R := R) (Nat.sub_pos_of_lt h)
  rw [tickFraction, tickFraction, Rounded.div_val, Rounded.div_val]
  apply R.monotone
  apply div_le_div_of_nonneg_right _ hpos.le
  rw [Rounded.ofNat_val, Rounded.ofNat_val]
  apply R.monotone
  exact_mod_cast Nat.sub_le_sub_right hst first.tick

-- === configurations

omit [IsStrictOrderedRing K]

theorem interpolate_eq (a b : List (Rounded R)) (fraction : Rounded R) :
    interpolate a b fraction
      = List.zipWith (fun a b => Rounded.blend a b fraction) a b := rfl

theorem length_interpolate (a b : List (Rounded R)) (fraction : Rounded R) :
    (interpolate a b fraction).length = min a.length b.length :=
  List.length_zipWith

/-- The fraction zero leads to the first configuration. -/
theorem interpolate_zero {a b : List (Rounded R)} (hlength : a.length = b.length)
    {fraction : Rounded R} (h : fraction.1 = 0) :
    interpolate a b fraction = a := by
  rw [interpolate_eq]
  induction a generalizing b with
  | nil => rfl
  | cons x a ih =>
      cases b with
      | nil => cases hlength
      | cons y b =>
          rw [List.zipWith_cons_cons, Rounded.blend_zero x y h,
            ih (Nat.succ.inj hlength)]

/-- The last configuration is reached by the fraction one. -/
def Reproduces {α : Type} [MetricScalar α] (first last : TimedConfiguration α) :
    Prop :=
  interpolate first.configuration last.configuration Scalar.one
    = last.configuration

/-- Every waypoint after the first is reached by the fraction one. -/
def Reproduced {α : Type} [MetricScalar α] : List (TimedConfiguration α) → Prop
  | first :: last :: rest => Reproduces first last ∧ Reproduced (last :: rest)
  | _ => True

/-- The configuration the builder has at a tick of a segment. -/
def plannedConfiguration {α : Type} [MetricScalar α]
    (first last : TimedConfiguration α) (tick : Nat) : List α :=
  if tick = last.tick then last.configuration
  else configurationAt first last tick

theorem planned_last {α : Type} [MetricScalar α]
    (first last : TimedConfiguration α) :
    plannedConfiguration first last last.tick = last.configuration :=
  if_pos rfl

theorem planned_before {α : Type} [MetricScalar α]
    {first last : TimedConfiguration α} {tick : Nat} (h : tick < last.tick) :
    plannedConfiguration first last tick = configurationAt first last tick :=
  if_neg h.ne

theorem planned_first
    (hlength : first.configuration.length = last.configuration.length)
    (h : first.tick < last.tick) :
    plannedConfiguration first last first.tick = first.configuration := by
  rw [planned_before h]
  exact interpolate_zero hlength tickFraction_first

theorem configurationAt_last [IsStrictOrderedRing K]
    (h : first.tick < last.tick) :
    configurationAt first last last.tick
      = interpolate first.configuration last.configuration Scalar.one := by
  rw [← tickFraction_last h]
  rfl

-- === boxes

theorem Rounded.interval_eq_iff (x y : Interval (Rounded R)) :
    Interval.eq x y = true ↔ x = y := by
  rw [Interval.eq, Bool.and_eq_true, Rounded.eq_iff, Rounded.eq_iff]
  cases x
  cases y
  rw [Interval.mk.injEq]

theorem axesEq_iff {axes others : List (Interval (Rounded R))} :
    axesEq axes others = true ↔ axes = others := by
  rw [axesEq, Bool.and_eq_true, beq_iff_eq, List.all_eq_true]
  constructor
  · intro ⟨hlength, hall⟩
    apply List.ext_getElem hlength
    intro i hi hi'
    have hmem : (axes[i], others[i]) ∈ axes.zip others := by
      rw [List.mem_iff_getElem]
      exact ⟨i, by simp [hi, hi'], by simp⟩
    exact (Rounded.interval_eq_iff _ _).mp (hall _ hmem)
  · intro heq
    subst heq
    refine ⟨rfl, fun p hp => ?_⟩
    rw [List.zip_eq_zipWith, List.zipWith_self] at hp
    obtain ⟨axis, -, rfl⟩ := List.mem_map.mp hp
    exact (Rounded.interval_eq_iff _ _).mpr rfl

/-- The box between two configurations tells the second one apart. -/
theorem endpointDomain_inj {a b c : List (Rounded R)}
    (hb : b.length = a.length) (hc : c.length = a.length)
    (h : endpointDomain a b = endpointDomain a c) : b = c := by
  have haxes : (endpointDomain a b).axes = (endpointDomain a c).axes :=
    congrArg CspaceAabb.axes h
  rw [endpointDomain, endpointDomain] at haxes
  induction a generalizing b c with
  | nil => rw [List.eq_nil_of_length_eq_zero hb, List.eq_nil_of_length_eq_zero hc]
  | cons x a ih =>
      cases b with
      | nil => cases hb
      | cons y b =>
          cases c with
          | nil => cases hc
          | cons z c =>
              simp only [List.zipWith_cons_cons, List.cons.injEq,
                Interval.mk.injEq] at haxes
              obtain ⟨⟨hmin, hmax⟩, hrest⟩ := haxes
              have hmin' := congrArg Subtype.val hmin
              have hmax' := congrArg Subtype.val hmax
              rw [Rounded.min_val, Rounded.min_val] at hmin'
              rw [Rounded.max_val, Rounded.max_val] at hmax'
              have hyz : y.1 = z.1 := by
                rcases le_total x.1 y.1 with hxy | hyx
                · rw [max_eq_right hxy] at hmax'
                  rw [min_eq_left hxy] at hmin'
                  rcases le_total x.1 z.1 with hxz | hzx
                  · rw [max_eq_right hxz] at hmax'
                    exact hmax'
                  · rw [min_eq_right hzx] at hmin'
                    rw [max_eq_left hzx] at hmax'
                    rw [hmax', hmin']
                · rw [max_eq_left hyx] at hmax'
                  rw [min_eq_right hyx] at hmin'
                  rcases le_total x.1 z.1 with hxz | hzx
                  · rw [min_eq_left hxz] at hmin'
                    rw [max_eq_right hxz] at hmax'
                    rw [hmin', hmax']
                  · rw [min_eq_right hzx] at hmin'
                    exact hmin'
              have hbc : b = c := by
                apply ih (Nat.succ.inj hb) (Nat.succ.inj hc) _ hrest
                exact congrArg CspaceAabb.mk hrest
              rw [Rounded.ext hyz, hbc]

/-- The box of a window contains what is interpolated in it. -/
theorem holds_endpointDomain [IsStrictOrderedRing K]
    (h : first.tick < last.tick) {s t e : Nat} (hst : s ≤ t) (hte : t ≤ e) :
    (endpointDomain (configurationAt first last s)
      (configurationAt first last e)).Holds (configurationAt first last t) := by
  have hlength : ∀ tick, (configurationAt first last tick).length
      = min first.configuration.length last.configuration.length :=
    fun tick => length_interpolate _ _ _
  refine ⟨?_, ?_⟩
  · show (configurationAt first last t).length = (List.zipWith _ _ _).length
    rw [List.length_zipWith, hlength, hlength, hlength, min_self]
  · intro i axis value haxis hvalue
    have haxis' : (List.zipWith (fun a b : Rounded R =>
        (⟨Scalar.min a b, Scalar.max a b⟩ : Interval (Rounded R)))
        (configurationAt first last s) (configurationAt first last e))[i]?
        = some axis := haxis
    rw [List.getElem?_zipWith_eq_some] at haxis'
    obtain ⟨u, v, hu, hv, rfl⟩ := haxis'
    have hcoordinate : ∀ {tick : Nat} {w : Rounded R},
        (configurationAt first last tick)[i]? = some w →
        ∃ a b, first.configuration[i]? = some a
          ∧ last.configuration[i]? = some b
          ∧ Rounded.blend a b (tickFraction first last tick) = w :=
      fun hw => List.getElem?_zipWith_eq_some.mp hw
    obtain ⟨a, b, ha, hb, rfl⟩ := hcoordinate hu
    obtain ⟨a', b', ha', hb', rfl⟩ := hcoordinate hv
    obtain ⟨a'', b'', ha'', hb'', rfl⟩ := hcoordinate hvalue
    rw [ha] at ha' ha''
    rw [hb] at hb' hb''
    cases ha'
    cases hb'
    cases ha''
    cases hb''
    obtain ⟨hlow, hhigh⟩ := Rounded.blend_between a b
      (tickFraction_mono h hst) (tickFraction_mono h hte)
    rw [Rounded.le_iff, Rounded.le_iff, Rounded.min_val, Rounded.max_val]
    exact ⟨hlow, hhigh⟩

end

end RbfSafe
