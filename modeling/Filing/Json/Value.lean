import Filing.Index
import Filing.Double

/-!
# JSON values

The members of an object are a list; `Json.ofMembers` puts them in ascending order of their names and
keeps the last of several members with one name, which is the form every reader of this library gives.
A number is an integer or a double: `1` and `1.0` are different values.
-/

namespace Filing

inductive Json where
  | null
  | bool (value : Bool)
  | int (value : Int)
  | double (value : Double)
  | string (value : String)
  | array (items : List Json)
  | object (members : List (String × Json))

instance : Inhabited Json := ⟨.null⟩

namespace Json

mutual

def decEq : (a b : Json) → Decidable (a = b)
  | .null, .null => .isTrue rfl
  | .bool a, .bool b => if h : a = b then .isTrue (h ▸ rfl) else .isFalse fun e => h (Json.bool.inj e)
  | .int a, .int b => if h : a = b then .isTrue (h ▸ rfl) else .isFalse fun e => h (Json.int.inj e)
  | .double a, .double b =>
    if h : a = b then .isTrue (h ▸ rfl) else .isFalse fun e => h (Json.double.inj e)
  | .string a, .string b =>
    if h : a = b then .isTrue (h ▸ rfl) else .isFalse fun e => h (Json.string.inj e)
  | .array a, .array b =>
    match decEqItems a b with
    | .isTrue h => .isTrue (h ▸ rfl)
    | .isFalse h => .isFalse fun e => h (Json.array.inj e)
  | .object a, .object b =>
    match decEqMembers a b with
    | .isTrue h => .isTrue (h ▸ rfl)
    | .isFalse h => .isFalse fun e => h (Json.object.inj e)
  | .null, .bool _ | .null, .int _ | .null, .double _ | .null, .string _ | .null, .array _
  | .null, .object _ | .bool _, .null | .bool _, .int _ | .bool _, .double _ | .bool _, .string _
  | .bool _, .array _ | .bool _, .object _ | .int _, .null | .int _, .bool _ | .int _, .double _
  | .int _, .string _ | .int _, .array _ | .int _, .object _ | .double _, .null
  | .double _, .bool _ | .double _, .int _ | .double _, .string _ | .double _, .array _
  | .double _, .object _ | .string _, .null | .string _, .bool _ | .string _, .int _
  | .string _, .double _ | .string _, .array _ | .string _, .object _ | .array _, .null
  | .array _, .bool _ | .array _, .int _ | .array _, .double _ | .array _, .string _
  | .array _, .object _ | .object _, .null | .object _, .bool _ | .object _, .int _
  | .object _, .double _ | .object _, .string _ | .object _, .array _ => .isFalse (by simp)

def decEqItems : (a b : List Json) → Decidable (a = b)
  | [], [] => .isTrue rfl
  | [], _ :: _ | _ :: _, [] => .isFalse (by simp)
  | a :: as, b :: bs =>
    match decEq a b, decEqItems as bs with
    | .isTrue h, .isTrue h' => .isTrue (by rw [h, h'])
    | .isFalse h, _ => .isFalse (by simp [h])
    | _, .isFalse h => .isFalse (by simp [h])

def decEqMembers : (a b : List (String × Json)) → Decidable (a = b)
  | [], [] => .isTrue rfl
  | [], _ :: _ | _ :: _, [] => .isFalse (by simp)
  | (k, a) :: as, (l, b) :: bs =>
    if hk : k = l then
      match decEq a b, decEqMembers as bs with
      | .isTrue h, .isTrue h' => .isTrue (by rw [hk, h, h'])
      | .isFalse h, _ => .isFalse (by simp [h])
      | _, .isFalse h => .isFalse (by simp [h])
    else .isFalse (by simp [hk])

end

instance : DecidableEq Json := decEq

/-- The object with the given members, in ascending order of their names; of several members with
one name the last is kept. -/
def ofMembers (members : List (String × Json)) : Json :=
  .object (Index.ofList members : Index (Prod.fst : String × Json → String)).items

def member (json : Json) (name : String) : Json :=
  match json with
  | .object members => (members.lookup name).getD .null
  | _ => .null

def strings (xs : List String) : Json := .array (xs.map .string)

def ints (xs : List Int) : Json := .array (xs.map .int)

end Json

end Filing
