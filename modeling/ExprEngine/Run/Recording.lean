import ExprEngine.Run.Basic

/-!
# Recordings

The values of nodes by their ids, in ascending order of the ids. A node that is evaluated again
replaces its value.
-/

namespace ExprEngine

structure Recording where
  entries : List (Int × Value) := []
deriving Inhabited

namespace Recording

def insert (id : Int) (v : Value) : List (Int × Value) → List (Int × Value)
  | [] => [(id, v)]
  | (i, w) :: rest =>
    if id < i then (id, v) :: (i, w) :: rest
    else if id = i then (id, v) :: rest
    else (i, w) :: insert id v rest

def set (r : Recording) (id : Int) (v : Value) : Recording := ⟨insert id v r.entries⟩

def get? (r : Recording) (id : Int) : Option Value := r.entries.lookup id

def ids (r : Recording) : List Int := r.entries.map Prod.fst

def size (r : Recording) : Nat := r.entries.length

def isEmpty (r : Recording) : Bool := r.entries.isEmpty

def follow (r : Recording) (log : List Event) : Recording :=
  log.foldl (fun r e => match e with
    | .recorded id v => r.set id v
    | _ => r) r

theorem get?_set_self (r : Recording) (id : Int) (v : Value) : (r.set id v).get? id = some v := by
  unfold set get?
  generalize r.entries = entries
  induction entries with
  | nil => simp [insert]
  | cons e rest ih =>
    obtain ⟨i, w⟩ := e
    unfold insert
    split
    · simp
    · split
      · simp
      · next h => simpa [List.lookup_cons, beq_false_of_ne h] using ih

def dumped [HostObjects] (r : Recording) : String :=
  braced (", ".intercalate (r.entries.map fun (id, v) => toString id ++ ": " ++ v.dumped))

end Recording

end ExprEngine
