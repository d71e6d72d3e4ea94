import Mathlib
import WasmHost.Proofs.Host.Linking

/-!
# Spellings of function types

Diagnostics tell function types apart by their spelling alone. This file proves that they can: a
spelling is read in one way only, so types with one spelling are one type.

The names of references have blanks and brackets in them, as has the spelling itself, so it does not
come apart at its blanks. What makes it readable is that no name of a value type is the beginning of
another one. Read from the left, the first name of a list is therefore known before it is known
where the list ends, and the character after it tells whether another name follows.

The import check goes by the types themselves. That it and the spellings agree makes its diagnostics
sound: what the host provides and what the module expects never look the same in them.
-/

namespace WasmHost

namespace ValType

/-- No name of a value type is the beginning of another one. -/
theorem eq_of_text_opens {type other : ValType}
    (first : type.text.toList <+: other.text.toList) : type = other := by
  revert first
  rcases type with (_ | _ | _ | _) | _ | ⟨_ | _, _ | _⟩ <;>
    rcases other with (_ | _ | _ | _) | _ | ⟨_ | _, _ | _⟩ <;>
    decide +kernel

/-- A name at the beginning of a text is known from the text. -/
theorem text_append_inj {type other : ValType} {rest more : List Char}
    (same : type.text.toList ++ rest = other.text.toList ++ more) : type = other ∧ rest = more := by
  have begins : type.text.toList <+: other.text.toList ++ more := ⟨rest, same⟩
  have equal : type = other := by
    rcases List.prefix_or_prefix_of_prefix begins (List.prefix_append _ more) with first | first
    · exact eq_of_text_opens first
    · exact (eq_of_text_opens first).symm
  subst equal
  exact ⟨rfl, List.append_cancel_left same⟩

end ValType

namespace FuncType

section Clauses

/-- The names after the first one of a clause, each with the blank before it. -/
def furtherNames (types : List ValType) : List Char :=
  types.flatMap fun type => ' ' :: type.text.toList

/-- What a clause begins with. -/
def opening (keyword : String) : List Char :=
  ' ' :: '(' :: keyword.toList

theorem intercalate_names (type : ValType) (types : List ValType) :
    (" ".intercalate ((type :: types).map ValType.text)).toList
      = type.text.toList ++ furtherNames types := by
  induction types generalizing type with
  | nil => simp [furtherNames]
  | cons next rest ih =>
      have following := ih next
      simp only [String.toList_intercalate, List.map_cons] at following ⊢
      rw [List.intercalate_cons_cons, following]
      simp [furtherNames]

theorem toList_clause_cons (keyword : String) (type : ValType) (types : List ValType) :
    (clause keyword ((type :: types).map ValType.text)).toList
      = opening keyword ++ ' ' :: (type.text.toList ++ (furtherNames types ++ [')'])) := by
  have names := intercalate_names type types
  simp only [List.map_cons] at names
  simp only [List.map_cons, clause, String.toList_append, names]
  simp [opening]

/-- Where the names end is known: a blank goes on, and a bracket does not. -/
theorem furtherNames_append_inj {types others : List ValType} {rest more : List Char}
    (same : furtherNames types ++ ')' :: rest = furtherNames others ++ ')' :: more) :
    types = others ∧ rest = more := by
  induction types generalizing others with
  | nil =>
      cases others with
      | nil => simpa [furtherNames] using same
      | cons other others => simp [furtherNames] at same
  | cons type types ih =>
      cases others with
      | nil => simp [furtherNames] at same
      | cons other others =>
          have names : type.text.toList ++ (furtherNames types ++ ')' :: rest)
              = other.text.toList ++ (furtherNames others ++ ')' :: more) := by
            simpa [furtherNames] using same
          rcases ValType.text_append_inj names with ⟨rfl, following⟩
          rcases ih following with ⟨rfl, equal⟩
          exact ⟨rfl, equal⟩

/-- A clause is known from a text that goes on with anything but a clause of its keyword. -/
theorem clause_append_inj {keyword : String} {types others : List ValType} {rest more : List Char}
    (restOther : ¬opening keyword <+: rest) (moreOther : ¬opening keyword <+: more)
    (same : (clause keyword (types.map ValType.text)).toList ++ rest
      = (clause keyword (others.map ValType.text)).toList ++ more) :
    types = others ∧ rest = more := by
  cases types with
  | nil =>
      cases others with
      | nil => exact ⟨rfl, by simpa [clause] using same⟩
      | cons other others =>
          rw [toList_clause_cons, List.append_assoc] at same
          exact absurd ⟨_, same.symm⟩ restOther
  | cons type types =>
      cases others with
      | nil =>
          rw [toList_clause_cons, List.append_assoc] at same
          exact absurd ⟨_, same⟩ moreOther
      | cons other others =>
          rw [toList_clause_cons, toList_clause_cons, List.append_assoc, List.append_assoc] at same
          have names : type.text.toList ++ (furtherNames types ++ ')' :: rest)
              = other.text.toList ++ (furtherNames others ++ ')' :: more) := by
            simpa using List.append_cancel_left same
          rcases ValType.text_append_inj names with ⟨rfl, following⟩
          rcases furtherNames_append_inj following with ⟨rfl, equal⟩
          exact ⟨rfl, equal⟩

end Clauses

theorem not_opening_bracket (keyword : String) (rest : List Char) :
    ¬opening keyword <+: ')' :: rest := by
  simp [opening, List.cons_prefix_cons]

/-- Results are not taken for parameters. -/
theorem not_opening_param (results : List ValType) (rest : List Char) :
    ¬opening "param" <+: (clause "result" (results.map ValType.text)).toList ++ ')' :: rest := by
  cases results with
  | nil => exact not_opening_bracket "param" rest
  | cons result results =>
      rw [toList_clause_cons]
      simp [opening, List.cons_prefix_cons]

theorem toList_text (type : FuncType) (rest : List Char) :
    type.text.toList ++ rest = "(func".toList
      ++ ((clause "param" (type.params.map ValType.text)).toList
        ++ ((clause "result" (type.results.map ValType.text)).toList ++ ')' :: rest)) := by
  simp [text, render]

/-- A function type at the beginning of a text is known from the text. -/
theorem text_append_inj {type other : FuncType} {rest more : List Char}
    (same : type.text.toList ++ rest = other.text.toList ++ more) : type = other ∧ rest = more := by
  rw [toList_text, toList_text] at same
  rcases clause_append_inj (not_opening_param _ rest) (not_opening_param _ more)
    (List.append_cancel_left same) with ⟨params, following⟩
  rcases clause_append_inj (not_opening_bracket _ rest) (not_opening_bracket _ more) following with
    ⟨results, equal⟩
  rw [List.cons.injEq] at equal
  exact ⟨by cases type; cases other; simp_all, equal.2⟩

theorem eq_of_text {type other : FuncType} (same : type.text = other.text) : type = other := by
  have lists : type.text.toList ++ [] = other.text.toList ++ [] := by rw [same]
  exact (text_append_inj lists).1

/-- The names of value types have no comma in them, and neither have the words around them. -/
theorem comma_not_mem_text (type : FuncType) : ',' ∉ type.text.toList := by
  have name : ∀ type : ValType, ',' ∉ type.text.toList := by
    rintro ((_ | _ | _ | _) | _ | ⟨_ | _, _ | _⟩) <;> decide +kernel
  have clauses : ∀ (keyword : String) (types : List ValType), ',' ∉ keyword.toList →
      ',' ∉ (clause keyword (types.map ValType.text)).toList := by
    intro keyword types noComma
    cases types with
    | nil => simp [clause]
    | cons type types =>
        rw [toList_clause_cons]
        simp [opening, furtherNames, name, noComma]
  simp [text, render, clauses]

end FuncType

/-- The rendering of function types loses nothing: two types have one spelling exactly if they have
the same parameters and the same results. -/
theorem text_eq_iff_same_lists (type other : FuncType) :
    type.text = other.text ↔ type.params = other.params ∧ type.results = other.results := by
  constructor
  · intro same
    rw [FuncType.eq_of_text same]
    exact ⟨rfl, rfl⟩
  · rintro ⟨params, results⟩
    rw [FuncType.text, FuncType.text, params, results]

example : FuncType.text ⟨[.ref true .func, .i32], [.ref false .external]⟩
    = "(func (param (ref null func) i32) (result (ref extern)))" := by
  decide +kernel

section Signatures

variable {signature : HostSignature} {type : FuncType}

/-- Signatures and value types have the same names for scalar types. -/
theorem HostSignature.kindText_eq (kind : NumType) : kindText kind = (ValType.num kind).text := by
  cases kind <;> rfl

theorem HostSignature.text_eq_text_type (signature : HostSignature) :
    signature.text = signature.type.text := by
  have names : kindText = ValType.text ∘ ValType.num := funext kindText_eq
  rw [text, FuncType.text, HostSignature.type, List.map_map, List.map_map, names]

theorem HostSignature.text_eq_iff : signature.text = type.text ↔ type = signature.type := by
  rw [text_eq_text_type]
  constructor
  · intro same
    exact FuncType.eq_of_text same.symm
  · rintro rfl
    rfl

/-- What stands between the two texts of a diagnostic begins with the only comma in it. -/
theorem ImportFault.toList_detail (shown other : String) :
    ("signature mismatch: host provides " ++ shown ++ ", module expects " ++ other).toList
      = "signature mismatch: host provides ".toList
        ++ (shown.toList ++ ',' :: (" module expects ".toList ++ other.toList)) := by
  have between : ", module expects ".toList = ',' :: " module expects ".toList := by
    decide +kernel
  simp only [String.toList_append, between, List.append_assoc, List.cons_append]

/-- The three kinds of faults are told apart by the first letter of their diagnostics. -/
theorem ImportFault.eq_wrongType_of_detail {fault : ImportFault} {rest : String}
    (detail : fault.detail = "signature mismatch: host provides " ++ rest) :
    ∃ offered expected, fault = .wrongType offered expected := by
  have letter : (fault.detail.toList).head? = some 's' := by
    have first : "signature mismatch: host provides ".toList.head? = some 's' := by decide +kernel
    rw [detail, String.toList_append, List.head?_append, first, Option.some_or]
  cases fault with
  | wrongType offered expected => exact ⟨offered, expected, rfl⟩
  | unknownName =>
      have first : ImportFault.unknownName.detail.toList.head? = some 'n' := by decide +kernel
      simp [first] at letter
  | notFunction offered kind =>
      have first : "host provides ".toList.head? = some 'h' := by decide +kernel
      have worded : (ImportFault.notFunction offered kind).detail = "host provides "
          ++ offered.text ++ ", module expects a " ++ kind ++ " import" := rfl
      rw [worded, String.append_assoc, String.append_assoc, String.append_assoc,
        String.toList_append, List.head?_append, first, Option.some_or] at letter
      simp at letter

/-- A diagnostic that shows one text on both sides is about a type that the signature accepts. -/
theorem ImportFault.accepts_of_detail {shown : String}
    (detail : (wrongType signature type).detail
      = "signature mismatch: host provides " ++ shown ++ ", module expects " ++ shown) :
    signature.accepts type = true := by
  have lists : signature.text.toList ++ ',' :: (" module expects ".toList ++ type.text.toList)
      = shown.toList ++ ',' :: (" module expects ".toList ++ shown.toList) := by
    have worded : (wrongType signature type).detail = "signature mismatch: host provides "
        ++ signature.text ++ ", module expects " ++ type.text := rfl
    have whole := congrArg String.toList (worded.symm.trans detail)
    rw [toList_detail signature.text type.text, toList_detail shown shown] at whole
    exact List.append_cancel_left whole
  have wordsPlain : ',' ∉ " module expects ".toList := by decide +kernel
  have restPlain : ',' ∉ " module expects ".toList ++ type.text.toList := by
    rw [List.mem_append, not_or]
    exact ⟨wordsPlain, FuncType.comma_not_mem_text type⟩
  have noComma : ',' ∉ signature.text.toList := by
    rw [signature.text_eq_text_type]
    exact FuncType.comma_not_mem_text signature.type
  rcases (List.append_cons_inj_of_notMem noComma restPlain).mp lists with ⟨provided, _, rest⟩
  have expected := List.append_cancel_left rest
  rw [HostSignature.accepts_iff, ← HostSignature.text_eq_iff]
  exact String.toList_injective (provided.trans expected.symm)

theorem Import.not_accepts_of_fault? {item : Import}
    (found : item.fault? = some (.wrongType signature type)) : signature.accepts type = false := by
  simp only [fault?] at found
  split at found
  · simp at found
  · split at found
    · split at found
      · simp at found
      · rename_i refused
        cases found
        simpa using refused
    · simp at found

end Signatures

/-- A signature accepts a type exactly if the two agree element by element, and exactly if they are
spelled alike. So no diagnostic of the import check that tells of a mismatch shows the same text for
what the host provides and for what the module expects. -/
theorem accepts_iff_spelled_alike (signature : HostSignature) (type : FuncType) :
    (signature.accepts type = true ↔
        List.Forall₂ (fun kind found => .num kind = found) signature.params type.params ∧
          List.Forall₂ (fun kind found => .num kind = found) signature.results type.results) ∧
      (signature.accepts type = true ↔ signature.text = type.text) ∧
      ∀ item fault, Import.fault? item = some fault → ∀ shown,
        fault.detail
          ≠ "signature mismatch: host provides " ++ shown ++ ", module expects " ++ shown := by
  have elements : ∀ (kinds : List NumType) (types : List ValType),
      List.Forall₂ (fun kind found => .num kind = found) kinds types ↔ types = kinds.map .num := by
    intro kinds types
    rw [← List.forall₂_map_left_iff, List.forall₂_eq_eq_eq, eq_comm]
  refine ⟨?_, ?_, ?_⟩
  · rw [elements, elements, HostSignature.accepts_iff, HostSignature.type]
    cases type
    simp
  · rw [HostSignature.accepts_iff, HostSignature.text_eq_iff]
  · intro item fault found shown detail
    have begins : fault.detail
        = "signature mismatch: host provides " ++ (shown ++ ", module expects " ++ shown) := by
      simpa only [String.append_assoc] using detail
    rcases ImportFault.eq_wrongType_of_detail begins with ⟨offered, expected, rfl⟩
    have refused := Import.not_accepts_of_fault? found
    simp [ImportFault.accepts_of_detail detail] at refused

/-- The host function with a parameter of another type is refused, and the two types are spelled
differently. -/
theorem wideParameter_spelled_apart :
    ∃ fault, Import.fault? ⟨"env", "js_putn", .func ⟨[.i64], []⟩⟩ = some fault ∧
      HostSignature.putn.text ≠ FuncType.text ⟨[.i64], []⟩ ∧
      ∀ shown, fault.detail
        ≠ "signature mismatch: host provides " ++ shown ++ ", module expects " ++ shown := by
  have found : Import.fault? ⟨"env", "js_putn", .func ⟨[.i64], []⟩⟩
      = some (.wrongType .putn ⟨[.i64], []⟩) := by
    decide +kernel
  rcases accepts_iff_spelled_alike .putn ⟨[.i64], []⟩ with ⟨_, spelling, diagnostics⟩
  refine ⟨_, found, ?_, diagnostics _ _ found⟩
  rw [ne_eq, ← spelling]
  decide

end WasmHost
