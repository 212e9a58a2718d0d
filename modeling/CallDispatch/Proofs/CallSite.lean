import CallDispatch.CallSite
import CallDispatch.Dispatcher
import CallDispatch.Proofs.Collections
import Mathlib.Data.List.Nodup

namespace CallDispatch

namespace CallSite

namespace Operator
variable {symbol : String}

theorem ofSymbol?_eq_some_iff {op : Operator} :
    ofSymbol? symbol = some op ↔ op.symbol = symbol := by
  constructor
  · exact symbol_of_ofSymbol?
  · intro h
    rw [← h, ofSymbol?_symbol]

theorem parse_eq_ok_iff {op : Operator} : parse symbol = .ok op ↔ ofSymbol? symbol = some op := by
  rw [parse]
  cases ofSymbol? symbol <;> simp

theorem parse_eq_error_iff {error : Error} :
    parse symbol = .error error ↔ ofSymbol? symbol = none ∧ error = .unknownOperator symbol := by
  rw [parse]
  cases ofSymbol? symbol <;> simp [eq_comm]

end Operator

/-- What is answered for a symbol by the primitive method found for it, if there is one. -/
inductive Answers (symbol : String) : Option Primitive → Bool → Option String → Kind → Prop
  | found (primitive : Primitive) :
    Answers symbol (some primitive) true (some primitive.method) (.fast primitive.op)
  | missing : Answers symbol none false none (.normal symbol)

namespace Numeric
variable {numeric : Numeric} {symbol : String} {primitive : Primitive}

theorem nodup_symbols (numeric : Numeric) :
    (numeric.primitives.map (·.op.symbol)).Nodup := by
  cases numeric <;> decide

/-- No two primitive methods have the same symbol, so that the table keeps all of them. -/
theorem primitive?_eq_some_iff :
    numeric.primitive? symbol = some primitive ↔
      primitive ∈ numeric.primitives ∧ primitive.op.symbol = symbol := by
  have hd : ((numeric.primitives.map fun primitive => (primitive.op.symbol, primitive)).map
      Prod.fst).Nodup := by
    rw [List.map_map]
    exact numeric.nodup_symbols
  rw [primitive?, table, Table.getElem?_ofList_eq_some_iff hd, List.mem_map]
  constructor
  · intro h
    obtain ⟨_, hp, he⟩ := h
    cases he
    exact ⟨hp, rfl⟩
  · intro h
    obtain ⟨hp, rfl⟩ := h
    exact ⟨primitive, hp, rfl⟩

theorem filter_symbol (numeric : Numeric) (symbol : String) :
    numeric.primitives.filter (·.op.symbol = symbol) = (numeric.primitive? symbol).toList := by
  have hm : ∀ primitive, primitive ∈ numeric.primitives.filter (·.op.symbol = symbol) ↔
      primitive ∈ (numeric.primitive? symbol).toList := by
    intro primitive
    rw [List.mem_filter, Option.mem_toList, primitive?_eq_some_iff, decide_eq_true_eq]
  cases h : numeric.primitive? symbol with
  | none =>
    rw [h] at hm
    apply List.eq_nil_iff_forall_not_mem.2
    intro primitive hp
    cases (hm primitive).1 hp
  | some primitive =>
    rw [h] at hm
    apply List.perm_singleton.1
    exact (List.perm_ext_iff_of_nodup (numeric.nodup_symbols.of_map.filter _)
      (List.nodup_singleton primitive)).2 hm

theorem answers (numeric : Numeric) (symbol : String) :
    Answers symbol (numeric.primitive? symbol) (numeric.hasPrimitive symbol)
      (numeric.method? symbol) (numeric.callSite symbol) := by
  have hh : numeric.hasPrimitive symbol = (numeric.primitive? symbol).isSome :=
    Std.ExtTreeMap.contains_eq_isSome_getElem?
  rw [hh, method?, callSite]
  cases numeric.primitive? symbol with
  | none => exact .missing
  | some primitive => exact .found primitive

theorem exists_integer_primitive (op : Operator) :
    ∃ primitive ∈ primitives .integer, primitive.op = op := by
  cases op <;> decide

/-- The table of the integers inverts the symbols as the operators themselves do. -/
theorem op_integer_primitive? (symbol : String) :
    (primitive? .integer symbol).map (·.op) = Operator.ofSymbol? symbol := by
  apply Option.ext
  intro op
  rw [Option.map_eq_some_iff, Operator.ofSymbol?_eq_some_iff]
  simp only [primitive?_eq_some_iff]
  constructor
  · intro h
    obtain ⟨primitive, ⟨_, hs⟩, rfl⟩ := h
    exact hs
  · intro h
    obtain ⟨primitive, hp, rfl⟩ := exists_integer_primitive op
    exact ⟨primitive, ⟨hp, h⟩, rfl⟩

theorem primitives_float :
    primitives .float = (primitives .integer).filter (!·.op.isBitwise) :=
  rfl

theorem float_primitive? (symbol : String) :
    primitive? .float symbol = (primitive? .integer symbol).filter (!·.op.isBitwise) := by
  apply Option.ext
  intro primitive
  rw [Option.filter_eq_some_iff, primitive?_eq_some_iff, primitive?_eq_some_iff, primitives_float,
    List.mem_filter, and_right_comm]

end Numeric

/-- All views of a symbol tell of the one primitive method with that symbol, or of none. -/
theorem primitive_views_agree (symbol : String) :
    (∀ numeric : Numeric,
      numeric.primitives.filter (·.op.symbol = symbol) = (numeric.primitive? symbol).toList ∧
      Answers symbol (numeric.primitive? symbol) (numeric.hasPrimitive symbol)
        (numeric.method? symbol) (numeric.callSite symbol)) ∧
    Answers symbol (Numeric.integer.primitive? symbol) (hasIntegerPrimitive symbol)
      (integerMethod? symbol) (integerCallSite symbol) ∧
    Answers symbol (Numeric.float.primitive? symbol) (hasFloatPrimitive symbol)
      (floatMethod? symbol) (floatCallSite symbol) ∧
    (Numeric.integer.primitive? symbol).map (·.op) = Operator.ofSymbol? symbol ∧
    (∀ op, Operator.parse symbol = .ok op ↔ Operator.ofSymbol? symbol = some op) ∧
    (∀ error, Operator.parse symbol = .error error ↔
      Operator.ofSymbol? symbol = none ∧ error = .unknownOperator symbol) ∧
    Numeric.float.primitive? symbol =
      (Numeric.integer.primitive? symbol).filter (!·.op.isBitwise) := by
  refine ⟨?_, Numeric.answers .integer symbol, Numeric.answers .float symbol,
    Numeric.op_integer_primitive? symbol, ?_, ?_, Numeric.float_primitive? symbol⟩
  · intro numeric
    exact ⟨numeric.filter_symbol symbol, numeric.answers symbol⟩
  · intro op
    exact Operator.parse_eq_ok_iff
  · intro error
    exact Operator.parse_eq_error_iff

example : integerMethod? ">>" = some "op_rshift" ∧ floatMethod? ">>" = none := by
  decide

theorem symbol_ne_respondToName (op : Operator) : op.symbol ≠ respondToName := by
  intro h
  have hn : Operator.ofSymbol? respondToName = none := rfl
  rw [← h, Operator.ofSymbol?_symbol] at hn
  cases hn

theorem integerCallSite_symbol (op : Operator) : integerCallSite op.symbol = .fast op := by
  obtain ⟨primitive, hp, rfl⟩ := Numeric.exists_integer_primitive op
  have hl := Numeric.primitive?_eq_some_iff.2 ⟨hp, rfl⟩
  rw [integerCallSite, Numeric.callSite, hl]

theorem integerCallSite_of_ofSymbol?_eq_none {name : String}
    (h : Operator.ofSymbol? name = none) : integerCallSite name = .normal name := by
  rw [← Numeric.op_integer_primitive?, Option.map_eq_none_iff] at h
  rw [integerCallSite, Numeric.callSite, h]

end CallSite

namespace Config
open CallSite
variable {config : Config} {name other : String} {kind : Kind} {op : Operator}

/-- Which kind of call site a configuration has for a name. -/
inductive Chooses (config : Config) : String → Kind → Prop
  | respondTo : Chooses config respondToName .respondTo
  | fast (op : Operator) (allowed : config.allowsFast = true) :
    Chooses config op.symbol (.fast op)
  | normal {name : String} (plain : name ≠ respondToName)
    (slow : ∀ op, ¬(config.allowsFast = true ∧ Operator.ofSymbol? name = some op)) :
    Chooses config name (.normal name)

theorem Chooses.callSite_eq (h : config.Chooses name kind) : config.callSite name = kind := by
  cases h with
  | respondTo => exact if_pos rfl
  | fast op allowed =>
    rw [callSite, if_neg (symbol_ne_respondToName op), if_pos allowed, integerCallSite_symbol]
  | normal plain slow =>
    rw [callSite, if_neg plain]
    split
    · next allowed =>
      apply integerCallSite_of_ofSymbol?_eq_none
      exact Option.eq_none_iff_forall_ne_some.2 fun op ho => slow op ⟨allowed, ho⟩
    · rfl

theorem exists_chooses (config : Config) (name : String) : ∃ kind, config.Chooses name kind := by
  by_cases hn : name = respondToName
  · subst hn
    exact ⟨_, .respondTo⟩
  · by_cases hf : ∃ op, config.allowsFast = true ∧ Operator.ofSymbol? name = some op
    · obtain ⟨op, allowed, ho⟩ := hf
      obtain rfl := Operator.symbol_of_ofSymbol? ho
      exact ⟨_, .fast op allowed⟩
    · exact ⟨_, .normal hn (not_exists.1 hf)⟩

theorem callSite_eq_iff : config.callSite name = kind ↔ config.Chooses name kind := by
  constructor
  · intro h
    obtain ⟨kind', hk⟩ := config.exists_chooses name
    rwa [← h, hk.callSite_eq]
  · exact Chooses.callSite_eq

theorem Chooses.methodName_eq (h : config.Chooses name kind) : kind.methodName = some name := by
  cases h <;> rfl

theorem methodName_callSite (config : Config) (name : String) :
    (config.callSite name).methodName = some name :=
  (callSite_eq_iff.1 rfl).methodName_eq

theorem callSite_eq_respondTo_iff : config.callSite name = .respondTo ↔ name = respondToName := by
  rw [callSite_eq_iff]
  constructor
  · intro h
    cases h
    rfl
  · intro h
    exact h ▸ .respondTo

theorem callSite_eq_fast_iff : config.callSite name = .fast op ↔
    config.allowsFast = true ∧ Operator.ofSymbol? name = some op := by
  rw [callSite_eq_iff, Operator.ofSymbol?_eq_some_iff]
  constructor
  · intro h
    cases h with
    | fast _ allowed => exact ⟨allowed, rfl⟩
  · intro h
    obtain ⟨allowed, rfl⟩ := h
    exact .fast op allowed

theorem callSite_eq_normal_iff : config.callSite name = .normal name ↔ name ≠ respondToName ∧
    ∀ op, ¬(config.allowsFast = true ∧ Operator.ofSymbol? name = some op) := by
  rw [callSite_eq_iff]
  constructor
  · intro h
    cases h with
    | normal plain slow => exact ⟨plain, slow⟩
  · intro h
    exact .normal h.1 h.2

theorem callSite_inj : config.callSite name = config.callSite other ↔ name = other := by
  constructor
  · intro h
    have hm := congrArg Kind.methodName h
    rw [methodName_callSite, methodName_callSite] at hm
    exact Option.some.inj hm
  · exact congrArg config.callSite

theorem isFast_callSite_iff : (config.callSite name).isFast = true ↔
    (config.fastOps = true ∧ config.fullTrace = false) ∧
      ∃ op, Operator.ofSymbol? name = some op := by
  have ha : config.allowsFast = true ↔ config.fastOps = true ∧ config.fullTrace = false := by
    rw [allowsFast, Bool.and_eq_true, Bool.not_eq_true']
  have hf : (config.callSite name).isFast = true ↔ ∃ op, config.callSite name = .fast op := by
    cases config.callSite name <;> simp [Kind.isFast]
  rw [hf, ← ha]
  simp only [callSite_eq_fast_iff, exists_and_left]

/-- The kind of call site is settled by the name and by whether fast paths are allowed. -/
theorem callSite_settled (config : Config) (name : String) :
    (config.callSite name).methodName = some name ∧
    (config.callSite name = .respondTo ↔ name = respondToName) ∧
    (∀ op, config.callSite name = .fast op ↔
      config.allowsFast = true ∧ Operator.ofSymbol? name = some op) ∧
    (∀ op, Operator.ofSymbol? name = some op ↔ op.symbol = name) ∧
    (config.callSite name = .normal name ↔ name ≠ respondToName ∧
      ∀ op, ¬(config.allowsFast = true ∧ Operator.ofSymbol? name = some op)) ∧
    (∀ other, config.callSite name = config.callSite other ↔ name = other) ∧
    ((config.callSite name).isFast = true ↔
      (config.fastOps = true ∧ config.fullTrace = false) ∧
        ∃ op, Operator.ofSymbol? name = some op) ∧
    ∀ codec registry,
      (Dispatcher.mk config codec registry).callSite name = config.callSite name ∧
      ∀ (σ : Type) (factory : Factory σ),
        factory.forCall config name = factory.build (config.callSite name) ∧
        (Dispatcher.mk config codec registry).buildSite factory name =
          factory.build (config.callSite name) := by
  refine ⟨config.methodName_callSite name, callSite_eq_respondTo_iff, ?_, ?_,
    callSite_eq_normal_iff, ?_, isFast_callSite_iff, ?_⟩
  · intro op
    exact callSite_eq_fast_iff
  · intro op
    exact Operator.ofSymbol?_eq_some_iff
  · intro other
    exact callSite_inj
  · intro codec registry
    refine ⟨rfl, ?_⟩
    intro σ factory
    exact ⟨rfl, rfl⟩

end Config
end CallDispatch
