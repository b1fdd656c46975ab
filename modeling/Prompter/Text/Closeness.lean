namespace Prompter.Text

variable {a b : List Char}

structure Block where
  first : Nat
  second : Nat
  size : Nat

/-- For each place of `b`, the length of the common block that ends there and at the character `x`. `before` holds these
lengths for the character before `x`, and `diagonal` the one for the place before. -/
def blockLengths (skipped : Char → Bool) (x : Char) : Nat → List Char → List Nat → List Nat
  | diagonal, y :: b, old :: before =>
      (if x = y && !skipped y then diagonal + 1 else 0) :: blockLengths skipped x old b before
  | _, _, _ => []

/-- The best of the blocks that end at place `i` of the first text; an earlier one wins a draw. -/
def bestInRow (i : Nat) (lengths : List Nat) (best : Block) : Block :=
  lengths.zipIdx.foldl
    (fun best (size, j) => if best.size < size then ⟨i + 1 - size, j + 1 - size, size⟩ else best) best

def coreBlock (skipped : Char → Bool) (a b : List Char) : Block :=
  (a.zipIdx.foldl
    (fun (best, lengths) (x, i) =>
      let lengths := blockLengths skipped x 0 b lengths
      (bestInRow i lengths best, lengths))
    (⟨0, 0, 0⟩, b.map fun _ => 0)).1

def commonLength : List Char → List Char → Nat
  | x :: a, y :: b => if x = y then commonLength a b + 1 else 0
  | _, _ => 0

def longestBlock (skipped : Char → Bool) (a b : List Char) : Block :=
  let core := coreBlock skipped a b
  let back := commonLength (a.take core.first).reverse (b.take core.second).reverse
  let on := commonLength (a.drop (core.first + core.size)) (b.drop (core.second + core.size))
  ⟨core.first - back, core.second - back, core.size + back + on⟩

/-- The characters in matching blocks. Each block found shortens what is left, so that as many steps as characters are
enough. -/
def matching (skipped : Char → Bool) : Nat → List Char → List Char → Nat
  | 0, _, _ => 0
  | steps + 1, a, b =>
      let block := longestBlock skipped a b
      if block.size = 0 then 0
      else block.size + matching skipped steps (a.take block.first) (b.take block.second) +
        matching skipped steps (a.drop (block.first + block.size)) (b.drop (block.second + block.size))

/-- The characters that begin no block: in a text of 200 characters or more, those that make up over one in a hundred. -/
def popular (text : List Char) : List Char :=
  if text.length < 200 then [] else text.eraseDups.filter fun c => text.length / 100 + 1 < text.count c

structure Share where
  matched : Nat
  total : Nat

def share (a b : List Char) : Share :=
  let total := a.length + b.length
  let skipped := popular b
  if total = 0 then ⟨1, 1⟩ else ⟨2 * matching skipped.contains a.length a b, total⟩

def Share.close (s : Share) : Bool := 3 * s.total ≤ 5 * s.matched

/-- The closer text goes first, and of texts as close as each other the later one in the order of texts. -/
def goesFirst (x y : Share × String) : Bool :=
  let left := x.1.matched * y.1.total
  let right := y.1.matched * x.1.total
  right < left || (left == right && y.2 ≤ x.2)

def closeNames (name : String) (names : List String) : List String :=
  let found := names.map fun n => (share n.toList name.toList, n)
  (((found.filter (·.1.close)).mergeSort goesFirst).take 3).map (·.2)

end Prompter.Text
