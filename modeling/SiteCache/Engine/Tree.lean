import SiteCache.Engine.Row

/-!
# Trees of pages

A file is pages of one size, numbered from one on; the first one begins behind the header of the
file.  A tree keeps rows in order: its inner pages hold rows, or in the tree of the schema only
row numbers, between pages of smaller and greater ones.  A page lists its cells at its front and
holds them at its end; what is too long for a cell spills over into a chain of further pages.
`Volume.rows?` reads the rows of a tree, and `Pages.tree` lays one out.
-/

namespace SiteCache

/-- The pages of a file, and how many octets of a page are in use. -/
structure Volume where
  usable : Nat
  pages : Array Octets

/-- The octets of the header of a file. -/
def Volume.headerSize : Nat := 100

namespace Volume

/-- A page, from the end of the header of the file on. -/
def page? (v : Volume) (number : Nat) : Option Octets :=
  if number = 0 then none else v.pages[number - 1]?

/-- Where the list of a page begins. -/
def start (number : Nat) : Nat := if number = 1 then headerSize else 0

/-- The number in so many octets at a place of a page. -/
def word (page : Octets) (place width : Nat) : Nat := Octets.toNat ((page.drop place).take width)

/-- The most octets of a row that stay in a cell whole: rows of the schema may be longer. -/
def most (usable : Nat) (schema : Bool) : Nat :=
  if schema then usable - 35 else (usable - 12) * 64 / 255 - 23

/-- How many octets of a row stay in its cell. -/
def kept (usable : Nat) (schema : Bool) (size : Nat) : Nat :=
  if size ≤ most usable schema then size
  else
    let least := (usable - 12) * 32 / 255 - 23
    let filled := least + (size - least) % (usable - 4)
    if filled ≤ most usable schema then filled else least

/-- The octets that spill over into a chain of at most so many pages. -/
def spilled? (v : Volume) : Nat → Nat → Nat → Option Octets
  | 0, _, left => if left = 0 then some [] else none
  | fuel + 1, number, left =>
    if left = 0 then some []
    else do
      let page ← v.page? number
      let here := (page.drop 4).take (min left (v.usable - 4))
      pure (here ++ (← spilled? v fuel (word page 0 4) (left - here.length)))

/-- The row in a cell. -/
def row? (v : Volume) (schema : Bool) (cell : Octets) : Option Row := do
  let (size, rest) ← Varint.read? cell
  let (_, rest) ← if schema then Varint.read? rest else some (0, rest)
  let here := kept v.usable schema size
  if rest.length < here then none
  let more ← if here = size then some [] else
    spilled? v v.pages.size (word rest here 4) (size - here)
  Row.decode? (rest.take here ++ more)

/-- The rows of a tree in order, down to so many pages below each other. -/
def rows? (v : Volume) (schema : Bool) : Nat → Nat → Option (List Row)
  | 0, _ => none
  | depth + 1, number => do
    let page ← v.page? number
    let start := start number
    let kind := word page start 1
    let inner := kind = (if schema then 5 else 2)
    if !inner ∧ kind ≠ (if schema then 13 else 10) then none
    let first := start + if inner then 12 else 8
    let cells := (List.range (word page (start + 3) 2)).map fun i =>
      page.drop (word page (first + 2 * i) 2)
    if inner then
      let parts ← cells.mapM fun cell => do
        let below ← rows? v schema depth (word cell 0 4)
        let row ← if schema then some [] else (row? v false (cell.drop 4)).map ([·])
        pure (below ++ row)
      let last ← rows? v schema depth (word page (start + 8) 4)
      pure (parts.flatten ++ last)
    else cells.mapM (row? v schema)

/-- The most pages below each other in a tree. -/
def deepest : Nat := 20

end Volume

/-! ### Laying out -/

/-- The octets of a page. -/
def pageSize : Nat := 4096

/-- Pages that are laid out, newest first, and the number of the next one. -/
structure Pages where
  next : Nat
  laid : List Octets := []

/-- A cell with the page of the smaller rows, if there is one. -/
structure Cell where
  below : Option Nat := none
  content : Octets

namespace Pages

/-- Fills up octets with zeros. -/
def padded (size : Nat) (b : Octets) : Octets := b ++ List.replicate (size - b.length) 0

/-- With one more page. -/
def add (p : Pages) (page : Octets) : Pages := ⟨p.next + 1, page :: p.laid⟩

/-- With a chain of pages for octets that spill over. -/
def chain (p : Pages) : List Octets → Pages
  | [] => p
  | [part] => p.add (padded pageSize (Octets.bigEndian 4 0 ++ part))
  | part :: rest => chain (p.add (padded pageSize (Octets.bigEndian 4 (p.next + 1) ++ part))) rest

/-- The cell of a row, and the pages with what spills over. -/
def cell (p : Pages) (row : Row) : Cell × Pages :=
  let b := row.encode
  let here := Volume.kept pageSize false b.length
  let content := Varint.write b.length ++ b.take here
  if here = b.length then ({ content }, p)
  else
    ({ content := content ++ Octets.bigEndian 4 p.next },
      p.chain (batches (pageSize - 4) (b.drop here)))

/-- The cells of rows. -/
def cells (p : Pages) : List Row → List Cell × Pages
  | [] => ([], p)
  | row :: rest =>
    let (c, p) := p.cell row
    let (more, p) := p.cells rest
    (c :: more, p)

/-- The octets that a cell takes in a page, with its place in the list. -/
def room (c : Cell) : Nat := c.content.length + 2 + if c.below.isSome then 4 else 0

/-- The cells at the front that fit into so many octets, and the others. -/
def fill : Nat → List Cell → List Cell × List Cell
  | _, [] => ([], [])
  | free, c :: rest =>
    if room c ≤ free then
      let (inside, outside) := fill (free - room c) rest
      (c :: inside, outside)
    else ([], c :: rest)

/-- Cells divided into pages, with the cell between each page and the next one; so many divisions at
most. -/
def divide : Nat → List Cell → List (List Cell × Cell) × List Cell
  | 0, cells => ([], cells)
  | fuel + 1, cells =>
    match fill (pageSize - 12) cells with
    | (_, []) => ([], cells)
    | (inside, [last]) =>
      match inside.getLast? with
      | some between => ([(inside.dropLast, between)], [last])
      | none => ([], cells)
    | (inside, between :: rest) =>
      let (more, last) := divide fuel rest
      ((inside, between) :: more, last)

/-- The octets of a page that begins behind so many others, with its cells; an inner page has the page
of the greatest rows. -/
def layout (before : Octets) (kinds : Nat × Nat) (cells : List Cell) (last : Option Nat) : Octets :=
  let contents := cells.map fun c =>
    (c.below.map (Octets.bigEndian 4)).getD [] ++ c.content
  let size := (contents.map List.length).foldl (· + ·) 0
  let kind := if last.isSome then kinds.1 else kinds.2
  let places := (contents.foldl (fun (x : Nat × Octets) c =>
    (x.1 + c.length, x.2 ++ Octets.bigEndian 2 x.1)) (pageSize - size, [])).2
  let list := before ++ [UInt8.ofNat kind] ++ Octets.bigEndian 2 0
    ++ Octets.bigEndian 2 cells.length ++ Octets.bigEndian 2 (pageSize - size) ++ [0]
    ++ (last.map (Octets.bigEndian 4)).getD [] ++ places
  padded (pageSize - size) list ++ contents.flatten

/-- The root of the tree over cells, and the pages below it; so many levels at most. -/
def tree : Nat → Pages → List Cell → Option Nat → Octets × Pages
  | 0, p, cells, last => (layout [] (2, 10) cells last, p)
  | fuel + 1, p, cells, last =>
    match divide cells.length cells with
    | ([], _) => (layout [] (2, 10) cells last, p)
    | (groups, final) =>
      let (upper, p) := groups.foldl (fun (x : List Cell × Pages) g =>
        (x.1 ++ [⟨some x.2.next, g.2.content⟩], x.2.add (layout [] (2, 10) g.1 g.2.below))) ([], p)
      tree fuel (p.add (layout [] (2, 10) final last)) upper (some p.next)

end Pages

end SiteCache
