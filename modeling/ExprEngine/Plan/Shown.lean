import ExprEngine.Plan.Basic

/-!
# Plans as text

Dumps of plans and attributes, on one line.
-/

namespace ExprEngine

variable [HostObjects]

def tagged (name part : String) : String := name ++ "(" ++ part ++ ")"

def fallbackText (function : String) (overloads : List Overload) : String :=
  function ++ "/" ++ toString overloads.length

def namesText (names : List String) : String := listText (names.map Text.quoted)

namespace Plan

def nodeText (id : Int) (node : String) : String :=
  recordText "Interpretable" [("id", toString id), ("node", node)]

def variableText (id : Int) (isLocal : Bool) (names qualifiers : List String) : String :=
  recordText "AbsoluteAttribute" [("id", toString id), ("candidates", namesText names),
    ("qualifiers", listText qualifiers), ("local", boolText isLocal)]

mutual

def dumped : Plan → String
  | const id v => nodeText id (tagged "Const" v.dumped)
  | attr id a => nodeText id (tagged "Attribute" (attributeText a))
  | both id l r => nodeText id ("LogicalAnd" ++ pairText (dumped l) (dumped r))
  | either id l r => nodeText id ("LogicalOr" ++ pairText (dumped l) (dumped r))
  | conditional id g t f =>
    nodeText id (recordText "Conditional" [("cond", dumped g), ("truthy", dumped t),
      ("falsy", dumped f)])
  | call id function args overloads =>
    nodeText id (tagged "Call" (recordText "Call" [("function", Text.quoted function),
      ("args", listText (dumpedAll args)), ("overloads", toString overloads.length)]))
  | list id elements => nodeText id (tagged "CreateList" (listText (dumpedAll elements)))
  | mapping id entries => nodeText id (tagged "CreateMap" (listText (dumpedEntries entries)))
  | object id typeName fields =>
    nodeText id (tagged "CreateStruct" (recordText "CreateStruct"
      [("type_name", Text.quoted typeName), ("fields", listText (dumpedFields fields))]))
  | presence id operand field _ =>
    nodeText id (tagged "HasField" (recordText "HasField" [("operand", dumped operand),
      ("field", Text.quoted field)]))
  | loop id iterVar range accuVar init condition step result =>
    nodeText id (tagged "Comprehension" (recordText "Comprehension"
      [("iter_var", Text.quoted iterVar), ("iter_range", dumped range),
       ("accu_var", Text.quoted accuVar), ("accu_init", dumped init),
       ("loop_condition", dumped condition), ("loop_step", dumped step),
       ("result", dumped result)]))
  | membership id element items keys function overloads =>
    nodeText id (tagged "SetMembership" (recordText "SetMembership"
      [("elem", dumped element), ("list", (Value.list items).dumped),
       ("set", braced (", ".intercalate (keys.map Key.dumped))),
       ("fallback", fallbackText function overloads)]))
  | search id text source _ function overloads =>
    nodeText id (tagged "ConstMatch" (recordText "ConstMatch"
      [("text", dumped text), ("pattern", (Value.string source).dumped),
       ("regex", tagged "Regex" (Text.quoted source)),
       ("fallback", fallbackText function overloads)]))
  | exhaustive inner => nodeText inner.id (tagged "Exhaustive" (dumped inner))
  | observed inner => nodeText inner.id (tagged "Observe" (dumped inner))
termination_by structural p => p

def dumpedAll : List Plan → List String
  | [] => []
  | p :: rest => dumped p :: dumpedAll rest
termination_by structural ps => ps

def dumpedEntries : List (Plan × Plan) → List String
  | [] => []
  | (k, v) :: rest => pairText (dumped k) (dumped v) :: dumpedEntries rest
termination_by structural entries => entries

def dumpedFields : List (String × Plan) → List String
  | [] => []
  | (name, v) :: rest => pairText (Text.quoted name) (dumped v) :: dumpedFields rest
termination_by structural fields => fields

def attributeText : Attribute → String
  | .absolute id isLocal names qs =>
    tagged "Absolute" (variableText id isLocal names (qualifierTexts qs))
  | .ambiguous id names qs =>
    let each := qualifierTexts qs
    let all := Interpretation.all id names 0 (qs.map Qualifier.label)
    tagged "Maybe" (recordText "MaybeAttribute" [("id", toString id),
      ("attrs", listText (all.map fun i => variableText i.id false i.names (each.drop i.taken)))])
  | .relative id operand qs =>
    tagged "Relative" (recordText "RelativeAttribute" [("id", toString id),
      ("operand", dumped operand), ("qualifiers", listText (qualifierTexts qs))])
  | .conditional id g t f =>
    tagged "Conditional" (recordText "ConditionalAttribute" [("id", toString id),
      ("guard", dumped g), ("truthy", attributeText t), ("falsy", attributeText f)])
termination_by structural a => a

def qualifierTexts : List Qualifier → List String
  | [] => []
  | .field id name _ :: rest =>
    ("." ++ Text.quoted name ++ "#" ++ toString id) :: qualifierTexts rest
  | .constant id key :: rest => ("[" ++ key.shown ++ "]#" ++ toString id) :: qualifierTexts rest
  | .computed id _ :: rest => ("[..]#" ++ toString id) :: qualifierTexts rest
termination_by structural qs => qs

end

end Plan

namespace Attribute

def dumped (a : Attribute) : String := Plan.attributeText a

end Attribute

end ExprEngine
