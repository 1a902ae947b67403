import Quantora.Strategy.Registry

/-! # Replaying a strategy

    A strategy reports its resolved parameters. Whatever reads the report may
    write a number with or without a point; created from it, the strategy is the
    same one.

    * `Denotes` — a JSON value that stands for a resolved parameter.
    * `Report` — the fields of an object that reports resolved parameters.
    * `create_of_report` — one case per registered strategy. -/

namespace Quantora

/-- A JSON value stands for a resolved parameter. A whole number may be written
    with a point, and one that is not too long without. -/
inductive Denotes : ParameterValue → Json → Prop
  | int (n : ℤ) : Denotes (.int n) (.int n)
  | int_as_float (n : ℤ) : Denotes (.int n) (.float (.num n))
  | float (x : ℚ) : Denotes (.float (some x)) (.float (.num x))
  | float_as_int (n : ℤ) (h : n.natAbs < 10 ^ 21) : Denotes (.float (some n)) (.int n)
  | nan : Denotes (.float none) (.float .nan)
  | bool (b : Bool) : Denotes (.bool b) (.bool b)
  | str (s : String) : Denotes (.str s) (.str s)

/-- The fields name the parameters, in their order, and stand for their
    values. -/
def Report (parameters : List (String × ParameterValue)) (fields : List (String × Json)) : Prop :=
  List.Forall₂ (fun parameter field => parameter.1 = field.1 ∧ Denotes parameter.2 field.2)
    parameters fields

namespace Report

variable {parameters : List (String × ParameterValue)} {fields : List (String × Json)}

theorem names (h : Report parameters fields) :
    fields.map Prod.fst = parameters.map Prod.fst := by
  induction h with
  | nil => rfl
  | cons hfield _ ih => rw [List.map_cons, List.map_cons, ih, hfield.1]

/-- Looking a parameter up in the fields finds what stands for it. -/
theorem given (h : Report parameters fields) (name : String) {value : ParameterValue}
    (hvalue : parameters.find? (fun parameter => parameter.1 = name) = some (name, value)) :
    ∃ item, Quantora.given fields name = some item ∧ Denotes value item := by
  induction h with
  | nil => cases hvalue
  | @cons parameter field parameters fields hfield _ ih =>
    obtain ⟨hname, hdenotes⟩ := hfield
    by_cases hhere : parameter.1 = name
    · rw [List.find?_cons_of_pos (by simpa using hhere)] at hvalue
      obtain rfl := Option.some.inj hvalue
      refine ⟨field.2, ?_, hdenotes⟩
      rw [Quantora.given, List.find?_cons_of_pos (by simpa using hname.symm)]
      rfl
    · rw [List.find?_cons_of_neg (by simpa using hhere)] at hvalue
      obtain ⟨item, hitem, hdenotes'⟩ := ih hvalue
      refine ⟨item, ?_, hdenotes'⟩
      rw [Quantora.given, List.find?_cons_of_neg (by simpa [← hname] using hhere)]
      exact hitem

theorem given_eq_none (h : Report parameters fields) {name : String}
    (hname : name ∉ parameters.map Prod.fst) : Quantora.given fields name = none := by
  rw [Quantora.given, Option.map_eq_none_iff, List.find?_eq_none]
  intro field hfield heq
  rw [← h.names] at hname
  exact hname (List.mem_map.mpr ⟨field, hfield, of_decide_eq_true heq⟩)

end Report

/-! ## One parameter -/

section Resolve

variable {rt : Runtime} {fields : List (String × Json)} {item : Json}

theorem IntSpec.check_eq (spec : IntSpec) (v : spec.Value) : spec.check v.1 = .ok v := by
  rw [IntSpec.check, dif_neg (not_lt.mpr v.2.1), dif_neg (not_lt.mpr v.2.2)]
  rfl

theorem IntSpec.resolve_of_denotes (spec : IntSpec) {v : spec.Value}
    (hgiven : given fields spec.name = some item) (h : Denotes (.int v.1) item) :
    spec.resolve rt fields = .ok v := by
  have hread : Python.int_parameter rt item = some v.1 := by
    cases h with
    | int => rfl
    | int_as_float =>
      rw [Python.int_parameter, if_pos (Rat.den_intCast v.1), Rat.num_intCast]
  rw [IntSpec.resolve, hgiven, Option.getD_some, IntSpec.validate, hread]
  exact spec.check_eq v

theorem FloatSpec.check_eq (spec : FloatSpec) (v : spec.Value) :
    spec.check rt (v.1.elim .nan .num) = .ok v := by
  obtain ⟨x, hx⟩ := v
  cases x with
  | none => rfl
  | some x =>
    obtain ⟨hmin, hmax⟩ := hx x rfl
    show spec.check rt (.num x) = _
    rw [FloatSpec.check, dif_neg (not_lt.mpr hmin), dif_neg (not_lt.mpr hmax)]

theorem FloatSpec.resolve_of_denotes (spec : FloatSpec) {v : spec.Value}
    (hgiven : given fields spec.name = some item) (h : Denotes (.float v.1) item) :
    spec.resolve rt fields = .ok v := by
  have hread : Python.float_overflows item = false ∧
      Python.float_parameter rt item = some (v.1.elim .nan .num) := by
    generalize v.1 = x at h
    cases h with
    | float x => exact ⟨rfl, rfl⟩
    | float_as_int n hn => exact ⟨Python.float_overflows_short hn, rfl⟩
    | nan => exact ⟨rfl, rfl⟩
  rw [FloatSpec.resolve, hgiven, Option.getD_some, FloatSpec.validate, hread.1, hread.2,
    if_neg Bool.false_ne_true]
  exact spec.check_eq v

theorem BoolSpec.resolve_of_denotes (spec : BoolSpec) {b : Bool}
    (hgiven : given fields spec.name = some item) (h : Denotes (.bool b) item) :
    spec.resolve fields = b := by
  cases h
  rw [BoolSpec.resolve, hgiven, Option.getD_some, Python.truth]

theorem StrSpec.resolve_of_denotes (spec : StrSpec) {v : spec.Value}
    (hgiven : given fields spec.name = some item) (h : Denotes (.str v.1) item) :
    spec.resolve rt fields = .ok v := by
  cases h
  obtain ⟨s, hne, hstrip, hchoice⟩ := v
  rw [StrSpec.resolve, hgiven, Option.getD_some, StrSpec.validate, dif_pos hchoice,
    dif_pos (by rw [hstrip]; exact hne)]
  simp only [hstrip]

theorem reject_unknown_of_names {strategy : String} {specs : List String}
    (h : ∀ name ∈ fields.map Prod.fst, name ∈ specs) :
    reject_unknown strategy specs fields = .ok () := by
  have hfilter : (fields.map Prod.fst).filter (fun name => name ∉ specs) = [] := by
    rw [List.filter_eq_nil_iff]
    intro name hname
    simpa using h name hname
  have hunknown : unknown_parameters specs fields = [] := by
    rw [unknown_parameters, hfilter]
    rfl
  rw [reject_unknown, hunknown]
  rfl

end Resolve

/-! ## The registered strategies -/

section Create

variable {rt : Runtime} {fields : List (String × Json)}

theorem MACD.create_of_report {p : MACD.Parameters} (h : Report p.as_dict fields) :
    MACD.create rt fields = .ok p := by
  have hknown : reject_unknown "macd" MACD.specs fields = .ok () :=
    reject_unknown_of_names (fun name hname => by rwa [h.names] at hname)
  obtain ⟨fast, hfast, hfast_value⟩ := h.given "fast" rfl
  obtain ⟨slow, hslow, hslow_value⟩ := h.given "slow" rfl
  obtain ⟨signal, hsignal, hsignal_value⟩ := h.given "signal" rfl
  obtain ⟨short, hshort, hshort_value⟩ := h.given "allow_short" rfl
  obtain ⟨zero, hzero, hzero_value⟩ := h.given "require_zero_line" rfl
  have hbelow := p.fast_lt_slow
  rw [MACD.create, hknown, MACD.fast.resolve_of_denotes hfast hfast_value,
    MACD.slow.resolve_of_denotes hslow hslow_value,
    MACD.signal.resolve_of_denotes hsignal hsignal_value,
    MACD.allow_short.resolve_of_denotes hshort hshort_value,
    MACD.require_zero_line.resolve_of_denotes hzero hzero_value]
  simp only [bind, Except.bind, dif_pos hbelow]

theorem Bollinger.create_of_report {p : Bollinger.Parameters} (h : Report p.as_dict fields) :
    Bollinger.create rt fields = .ok p := by
  have hknown : reject_unknown "bollinger" Bollinger.specs fields = .ok () :=
    reject_unknown_of_names (fun name hname => by rwa [h.names] at hname)
  obtain ⟨window, hwindow, hwindow_value⟩ := h.given "window" rfl
  obtain ⟨std, hstd, hstd_value⟩ := h.given "num_std" rfl
  obtain ⟨middle, hmiddle, hmiddle_value⟩ := h.given "exit_at_middle" rfl
  obtain ⟨short, hshort, hshort_value⟩ := h.given "allow_short" rfl
  rw [Bollinger.create, hknown, Bollinger.window.resolve_of_denotes hwindow hwindow_value,
    Bollinger.num_std.resolve_of_denotes hstd hstd_value,
    Bollinger.exit_at_middle.resolve_of_denotes hmiddle hmiddle_value,
    Bollinger.allow_short.resolve_of_denotes hshort hshort_value]
  rfl

theorem DualThrust.create_of_report {p : DualThrust.Parameters} (h : Report p.as_dict fields) :
    DualThrust.create rt fields = .ok p := by
  have hknown : reject_unknown "dual_thrust" DualThrust.specs fields = .ok () :=
    reject_unknown_of_names (fun name hname => by rwa [h.names] at hname)
  obtain ⟨lookback, hlookback, hlookback_value⟩ := h.given "lookback" rfl
  obtain ⟨upper, hupper, hupper_value⟩ := h.given "k_upper" rfl
  obtain ⟨lower, hlower, hlower_value⟩ := h.given "k_lower" rfl
  obtain ⟨short, hshort, hshort_value⟩ := h.given "allow_short" rfl
  obtain ⟨trigger, htrigger, htrigger_value⟩ := h.given "trigger_on" rfl
  rw [DualThrust.create, hknown, DualThrust.lookback.resolve_of_denotes hlookback hlookback_value,
    DualThrust.k_upper.resolve_of_denotes hupper hupper_value,
    DualThrust.k_lower.resolve_of_denotes hlower hlower_value,
    DualThrust.allow_short.resolve_of_denotes hshort hshort_value,
    DualThrust.trigger_on.resolve_of_denotes htrigger htrigger_value]
  rfl

theorem PairTrading.create_of_report {p : PairTrading.Parameters} (h : Report p.as_dict fields) :
    PairTrading.create rt fields = .ok p := by
  have hknown : reject_unknown "pair_trading" PairTrading.specs fields = .ok () :=
    reject_unknown_of_names (fun name hname => by rwa [h.names] at hname)
  have hkept : fields.filter (fun field => field.1 ≠ "pair_series") = fields := by
    rw [List.filter_eq_self]
    intro field hfield
    have hname : field.1 ∈ PairTrading.specs := by
      have hmem := List.mem_map_of_mem (f := Prod.fst) hfield
      rwa [h.names] at hmem
    have hne : ∀ name ∈ PairTrading.specs, name ≠ "pair_series" := by decide +kernel
    simpa using hne field.1 hname
  have hseries : given fields "pair_series" = none := by
    apply h.given_eq_none
    change "pair_series" ∉ PairTrading.specs
    decide +kernel
  obtain ⟨symbol, hsymbol, hsymbol_value⟩ := h.given "pair_symbol" rfl
  obtain ⟨lookback, hlookback, hlookback_value⟩ := h.given "lookback" rfl
  obtain ⟨entry, hentry, hentry_value⟩ := h.given "entry_z" rfl
  obtain ⟨exit, hexit, hexit_value⟩ := h.given "exit_z" rfl
  obtain ⟨minimum, hminimum, hminimum_value⟩ := h.given "min_correlation" rfl
  obtain ⟨hedge, hhedge, hhedge_value⟩ := h.given "use_hedge_ratio" rfl
  have hbelow := p.exit_below_entry
  have hparameters : PairTrading.create_parameters rt fields = .ok p := by
    rw [PairTrading.create_parameters, hknown,
      PairTrading.pair_symbol.resolve_of_denotes hsymbol hsymbol_value,
      PairTrading.lookback.resolve_of_denotes hlookback hlookback_value,
      PairTrading.entry_z.resolve_of_denotes hentry hentry_value,
      PairTrading.exit_z.resolve_of_denotes hexit hexit_value,
      PairTrading.min_correlation.resolve_of_denotes hminimum hminimum_value,
      PairTrading.use_hedge_ratio.resolve_of_denotes hhedge hhedge_value]
    simp only [bind, Except.bind, dif_pos hbelow]
  rw [PairTrading.create, hkept, hparameters, hseries]
  rfl

/-- **Main result**: a strategy created from its own report is the same
    strategy. -/
theorem RegisteredStrategy.create_of_report {strategy : RegisteredStrategy}
    (h : Report strategy.parameters fields) :
    RegisteredStrategy.create rt strategy.name fields = .ok strategy := by
  cases strategy with
  | macd p =>
    show (MACD.create rt fields).map RegisteredStrategy.macd = _
    rw [MACD.create_of_report h]
    rfl
  | bollinger p =>
    show (Bollinger.create rt fields).map RegisteredStrategy.bollinger = _
    rw [Bollinger.create_of_report h]
    rfl
  | dual_thrust p =>
    show (DualThrust.create rt fields).map RegisteredStrategy.dual_thrust = _
    rw [DualThrust.create_of_report h]
    rfl
  | pair_trading p =>
    show (PairTrading.create rt fields).map RegisteredStrategy.pair_trading = _
    rw [PairTrading.create_of_report h]
    rfl

end Create

end Quantora
