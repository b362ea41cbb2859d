import Filing.Yaml.Tree

/-!
# Reading the looser format

A text is read to the tree whose parts have no types yet. Aliases are replaced by what they name. What is
nested too deeply is unreadable, and so is what follows when aliases are replaced too often.
-/

namespace Filing.Yaml

def depthLimit : Nat := 128

namespace Tree

/-- The tree with an anchor: of several with one number, the last. -/
def target? (table : List (Nat × Tree)) (anchor : Nat) : Option Tree :=
  (table.reverse.lookup anchor)

mutual

/-- The untyped tree, and how many aliases may still be replaced. `depth` is how many collections may
still be entered. -/
def expand (table : List (Nat × Tree)) : Nat → Nat → Nat → Tree → Node × Nat
  | 0, _, jumps, _ => (.unreadable, jumps)
  | fuel + 1, depth, jumps, tree =>
    match tree with
    | .alias anchor =>
      match jumps, target? table anchor with
      | jumps + 1, some tree => expand table fuel depth jumps tree
      | _, _ => (.unreadable, 0)
    | .scalar _ x => (.scalar x, jumps)
    | .sequence _ tag xs =>
      match depth with
      | 0 => (.unreadable, jumps)
      | depth + 1 =>
        let (items, jumps) := expandItems table fuel depth jumps xs
        (.sequence (tag.any Scalar.isOwnTag) false items, jumps)
    | .mapping _ tag ms =>
      match depth with
      | 0 => (.unreadable, jumps)
      | depth + 1 =>
        let (members, jumps) := expandMembers table fuel depth jumps ms
        (.mapping (tag.any Scalar.isOwnTag) members, jumps)

def expandItems (table : List (Nat × Tree)) : Nat → Nat → Nat → List Tree → List Node × Nat
  | 0, _, jumps, _ => ([.unreadable], jumps)
  | _ + 1, _, jumps, [] => ([], jumps)
  | fuel + 1, depth, jumps, x :: xs =>
    let (item, jumps) := expand table fuel depth jumps x
    let (items, jumps) := expandItems table fuel depth jumps xs
    (item :: items, jumps)

def expandMembers (table : List (Nat × Tree)) : Nat → Nat → Nat → List (Tree × Tree) →
    List (Node × Node) × Nat
  | 0, _, jumps, _ => ([(.unreadable, .unreadable)], jumps)
  | _ + 1, _, jumps, [] => ([], jumps)
  | fuel + 1, depth, jumps, (k, x) :: ms =>
    let (key, jumps) := expand table fuel depth jumps k
    let (value, jumps) := expand table fuel depth jumps x
    let (members, jumps) := expandMembers table fuel depth jumps ms
    ((key, value) :: members, jumps)

end

def toNode (tree : Tree) : Node :=
  let size := tree.size
  (expand tree.anchored (depthLimit * (size + 2) + size + 2) depthLimit (100 * size) tree).1

end Tree

end Filing.Yaml

namespace Filing

def Node.ofYamlText? (text : String) : Option Node := do
  return (← Yaml.Tree.ofTokens? (← Yaml.Token.ofText? text)).toNode

end Filing
