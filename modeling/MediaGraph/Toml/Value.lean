import MediaGraph.Toml.Moment

namespace MediaGraph.Toml

/-!
# Values of TOML documents

* `Value.display` — the text of a value; a text stands for itself.
* `Value.isTrue` — whether a value counts as set.
* `Value.items?` — what a value holds, when it can be gone through.
* `Value.same_iff` — values can be compared.
-/

/-- A value of a document.  Fractions are kept as their texts. -/
inductive Value where
  | text (s : String)
  | integer (n : Int)
  | boolean (b : Bool)
  | fraction (shown : String) (isZero : Bool)
  | moment (m : Moment)
  | array (values : List Value)
  | table (entries : List (String × Value))
  deriving Repr

/-- The entries of a table. -/
abbrev Table := List (String × Value)

mutual

/-- A value as it stands inside another one: texts between quotes. -/
def Value.shown : Value → String
  | .text s => Text.quoted s
  | .integer n => toString n
  | .boolean true => "True"
  | .boolean false => "False"
  | .fraction shown _ => shown
  | .moment m => m.shown
  | .array values => "[" ++ Text.joinWith ", " (shownAll values) ++ "]"
  | .table entries => "\x7b" ++ Text.joinWith ", " (shownEntries entries) ++ "\x7d"

/-- The values of an array, each as it stands inside it. -/
def shownAll : List Value → List String
  | [] => []
  | v :: vs => v.shown :: shownAll vs

/-- The entries of a table, each as it stands inside it. -/
def shownEntries : List (String × Value) → List String
  | [] => []
  | (k, v) :: rest => (Text.quoted k ++ ": " ++ v.shown) :: shownEntries rest

end

/-- The text of a value. -/
def Value.display : Value → String
  | .text s => s
  | .moment m => m.display
  | v => v.shown

/-- Whether a value counts as set: neither false, nor zero, nor empty. -/
def Value.isTrue : Value → Bool
  | .text s => !s.isEmpty
  | .integer n => n ≠ 0
  | .boolean b => b
  | .fraction _ isZero => !isZero
  | .moment _ => true
  | .array values => !values.isEmpty
  | .table entries => !entries.isEmpty

/-- What a value holds: the characters of a text, the values of an array, the keys of a table. -/
def Value.items? : Value → Option (List Value)
  | .text s => some (s.toList.map fun c => .text (String.singleton c))
  | .array values => some values
  | .table entries => some (entries.map fun e => .text e.1)
  | _ => none

/-- The value of a key in a table. -/
def find? (key : String) (entries : Table) : Option Value := entries.lookup key

/-! ### Comparing values -/

mutual

/-- Whether two values are the same. -/
def Value.same : Value → Value → Bool
  | .text s, .text s' => s == s'
  | .integer n, .integer n' => n == n'
  | .boolean b, .boolean b' => b == b'
  | .fraction shown isZero, .fraction shown' isZero' => shown == shown' && isZero == isZero'
  | .moment m, .moment m' => m == m'
  | .array values, .array values' => sameAll values values'
  | .table entries, .table entries' => sameEntries entries entries'
  | _, _ => false

/-- Whether the values of two arrays are the same. -/
def sameAll : List Value → List Value → Bool
  | [], [] => true
  | v :: vs, v' :: vs' => v.same v' && sameAll vs vs'
  | _, _ => false

/-- Whether the entries of two tables are the same. -/
def sameEntries : List (String × Value) → List (String × Value) → Bool
  | [], [] => true
  | (k, v) :: es, (k', v') :: es' => k == k' && v.same v' && sameEntries es es'
  | _, _ => false

end

mutual

/-- Only a value itself is the same as it. -/
theorem Value.same_iff (v v' : Value) : v.same v' = true ↔ v = v' := by
  cases v with
  | array values => cases v' <;> simp [Value.same, sameAll_iff values]
  | table entries => cases v' <;> simp [Value.same, sameEntries_iff entries]
  | _ => cases v' <;> simp [Value.same]

theorem sameAll_iff (vs vs' : List Value) : sameAll vs vs' = true ↔ vs = vs' := by
  cases vs with
  | nil => cases vs' <;> simp [sameAll]
  | cons v vs => cases vs' <;> simp [sameAll, Value.same_iff v, sameAll_iff vs]

theorem sameEntries_iff (es es' : List (String × Value)) :
    sameEntries es es' = true ↔ es = es' := by
  cases es with
  | nil => cases es' <;> simp [sameEntries]
  | cons e es =>
    obtain ⟨k, v⟩ := e
    cases es' <;> simp [sameEntries, Value.same_iff v, sameEntries_iff es, Prod.ext_iff, and_assoc]

end

instance : DecidableEq Value := fun v v' => decidable_of_iff _ (Value.same_iff v v')

end MediaGraph.Toml
