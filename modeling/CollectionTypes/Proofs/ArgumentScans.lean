import CollectionTypes.CommandLine.Arguments
import Mathlib.Data.List.Nodup

/-!
# Scans of arguments

How a scan goes on whose arguments ask for each thing once. What was asked for so far is either all
settled, or the value of the last option still waits to be; whatever comes next settles it first, so
both states go on in the same way.
-/

namespace CollectionTypes.CommandLine

/-- One thing that arguments ask for. -/
inductive Request where
  | value (option : ValueOption) (value : String)
  | flag (flag : Flag)
  deriving DecidableEq, Repr

namespace Request

def argument : Request → Argument
  | .value o _ => .option o
  | .flag f => .flag f

def given : Request → Given
  | .value o v => ⟨.option o, v⟩
  | .flag f => ⟨.flag f, ""⟩

/-- A value that cannot be taken for anything else: there is one, and it begins neither like an
option nor like an attached value. -/
def isPlain : Request → Bool
  | .value _ v => v.toList.head?.any fun c => c != '-' && c != '='
  | .flag _ => true

@[simp] theorem given_argument (request : Request) : request.given.argument = request.argument := by
  cases request <;> rfl

end Request

/-- Requests that do not repeat an argument, with plain values. -/
structure Fit (requests : List Request) : Prop where
  once : (requests.map (·.argument)).Nodup
  plain : ∀ request ∈ requests, request.isPlain = true

theorem Fit.front {front back : List Request} (fit : Fit (front ++ back)) : Fit front where
  once := by
    have once := fit.once
    rw [List.map_append] at once
    exact once.of_append_left
  plain request member := fit.plain request (List.mem_append_left back member)

/-- The next request is for something new. -/
theorem Fit.fresh {front : List Request} {request : Request} (fit : Fit (front ++ [request])) :
    request.argument ∉ front.map (·.argument) := by
  have once := fit.once
  rw [List.map_append, List.map_singleton, List.nodup_append] at once
  intro member
  exact once.2.2 _ member _ (List.mem_singleton.mpr rfl) rfl

theorem Fit.value_first {requests : List Request} (fit : Fit requests) {option : ValueOption}
    {value : String} (member : .value option value ∈ requests) :
    ∃ c rest, value.toList = c :: rest ∧ c ≠ '-' ∧ c ≠ '=' := by
  have plain := fit.plain _ member
  rw [Request.isPlain] at plain
  cases shape : value.toList with
  | nil => simp [shape] at plain
  | cons c rest =>
    rw [shape, List.head?_cons, Option.any_some, Bool.and_eq_true, bne_iff_ne, bne_iff_ne] at plain
    exact ⟨c, rest, rfl, plain⟩

namespace Scan

/-- The scan that has settled some requests. -/
def settled (requests : List Request) : Scan :=
  ⟨requests.map (·.given), none, false⟩

/-- A scan that was asked for some requests, of which the last may wait. -/
inductive Holds : Scan → List Request → Prop
  | all (requests : List Request) : Holds (settled requests) requests
  | butLast (requests : List Request) (option : ValueOption) (value : String) :
      Holds { settled requests with waiting := some ⟨option, some value⟩ }
        (requests ++ [.value option value])

theorem Holds.separated {scan : Scan} {requests : List Request} (holds : Holds scan requests) :
    scan.separated = false := by
  cases holds <;> rfl

theorem has_settled (requests : List Request) (argument : Argument) :
    (settled requests).has argument = true ↔ argument ∈ requests.map (·.argument) := by
  simp only [has, settled, List.any_map, List.any_eq_true, Function.comp_apply, beq_iff_eq,
    Request.given_argument, List.mem_map]

section Steps

variable {scan : Scan} {requests : List Request}

theorem give_settled {request : Request} (fit : Fit (requests ++ [request])) :
    (settled requests).give request.argument request.given.value =
      .ok (settled (requests ++ [request])) := by
  have new : ¬(settled requests).has request.argument = true :=
    fun old => fit.fresh ((has_settled _ _).mp old)
  rw [give, if_neg new, settled, settled, List.map_append]
  cases request <;> rfl

theorem giveValue_settled {option : ValueOption} {value : String}
    (fit : Fit (requests ++ [.value option value])) :
    (settled requests).giveValue option value =
      .ok (settled (requests ++ [.value option value])) := by
  obtain ⟨c, rest, shape, -, -⟩ := fit.value_first (List.mem_append_right _ List.mem_cons_self)
  have some : ¬value.isEmpty = true := by
    rw [String.isEmpty_iff]
    rintro rfl
    exact absurd shape (by simp)
  have given := give_settled fit
  simp only [Request.argument, Request.given] at given
  simp only [giveValue, given, bind, Except.bind, if_neg some]

/-- Whether the last request waits makes no difference once it is settled. -/
theorem Holds.settle (holds : Holds scan requests) (fit : Fit requests) :
    scan.settle = .ok (settled requests) := by
  cases holds with
  | all => rfl
  | butLast requests option value => exact giveValue_settled fit

theorem takeFlag_of_holds {flag : Flag} (holds : Holds scan requests)
    (fit : Fit (requests ++ [.flag flag])) :
    scan.takeFlag flag = .ok (settled (requests ++ [.flag flag])) := by
  rw [takeFlag, holds.settle fit.front]
  exact give_settled fit

theorem takeOption_attached {option : ValueOption} {value : String} (holds : Holds scan requests)
    (fit : Fit (requests ++ [.value option value])) :
    scan.takeOption option (some value.toList) =
      .ok (settled (requests ++ [.value option value])) := by
  rw [takeOption, holds.settle fit.front]
  change (settled requests).giveValue option (String.ofList value.toList) = _
  rw [String.ofList_toList]
  exact giveValue_settled fit

theorem takeOption_apart {option : ValueOption} (holds : Holds scan requests)
    (fit : Fit requests) :
    scan.takeOption option none = .ok ((settled requests).await option) := by
  rw [takeOption, holds.settle fit]
  rfl

end Steps

end Scan

end CollectionTypes.CommandLine
