/-
**What a `tablerow` loop does.**

A `tablerow` loop goes through its items as `for` does and writes each turn as a cell.  It counts
columns and rows as it goes; here the place of a cell is read off the number of its turn, by
division by the number of columns.  A row ends behind a full row of cells, but only if another
cell follows: **so no row that is opened later is empty, and every row that is opened is closed**.

Main definitions:

* `Loop.tableCells` — a `tablerow` loop as a loop;
* `Turn.rows`, `InRows` — turns in rows, and what such rows are like;
* `ColumnsOf`, `TellsCell` — the number of columns, and what the body reads about its cell.

Main results:

* `Loop.rowTurns_eq` — the counters of columns and rows are remainder and quotient;
* `Turn.cells_eq_rows` — cells with row ends between them are rows;
* `Engine.tablerow_lays_out` — **the cells of a table, its rows, and what its body sees**.
-/
import TemplateEngine.Proofs.Loops.Turns

set_option autoImplicit false

namespace TemplateEngine

/-! ### Marks -/

namespace Tags

/-- A cell in a column. -/
def cellMark (col : Nat) (text : String) : String :=
  "<td class=\"col" ++ numberText col ++ "\">" ++ text ++ "</td>"

/-- The start of a row. -/
def rowStart (row : Nat) : String := "<tr class=\"row" ++ numberText row ++ "\">"

/-- The end of a row. -/
def rowEnd : String := "</tr>\n"

-- To unfold these two by name is slow, because their equations are checked by evaluation.

theorem cellMark_eq (col : Nat) (text : String) :
    cellMark col text = "<td class=\"col" ++ numberText col ++ "\">" ++ text ++ "</td>" := rfl

theorem rowStart_eq (row : Nat) :
    rowStart row = "<tr class=\"row" ++ numberText row ++ "\">" := rfl

end Tags

/-! ### The two counters -/

namespace Loop

open Tags

/-- A `tablerow` loop of `n` turns in `c` columns: behind a full row another one begins, unless
this turn is the last one. -/
def tableCells (name : String) (n c : Nat) : Loop where
  itemName := name
  placeName := "tablerowloop"
  place i := .map (turnFields name i n ++ cellFields c (i % c + 1) (i / c + 1))
  mark i text stop := cellMark (i % c + 1) text ++
    if (i + 1) % c = 0 ∧ i + 1 ≠ n ∧ stop = false then rowEnd ++ rowStart (i / c + 2) else ""

/-- Behind a full row the next cell is the first one of the next row. -/
theorem place_of_full {c i : Nat} (h : i % c + 1 = c) :
    (i + 1) / c = i / c + 1 ∧ (i + 1) % c = 0 := by
  have hc : 0 < c := by omega
  have hdiv := Nat.div_add_mod i c
  have hnext : i + 1 = c * (i / c + 1) := by rw [Nat.mul_add, Nat.mul_one]; omega
  rw [hnext]
  exact ⟨Nat.mul_div_cancel_left _ hc, Nat.mul_mod_right _ _⟩

/-- Behind any other cell it is the next one of the same row. -/
theorem place_of_not_full {c i : Nat} (hc : 0 < c) (h : i % c + 1 ≠ c) :
    (i + 1) / c = i / c ∧ (i + 1) % c = i % c + 1 := by
  have hlt := Nat.mod_lt i hc
  have hdiv := Nat.div_add_mod i c
  have hnext : i + 1 = i % c + 1 + c * (i / c) := by omega
  have hsmall : i % c + 1 < c := by omega
  rw [hnext, Nat.add_mul_div_left _ _ hc, Nat.add_mul_mod_self_left, Nat.div_eq_of_lt hsmall,
    Nat.mod_eq_of_lt hsmall, Nat.zero_add]
  exact ⟨rfl, rfl⟩

/-- A row is full with the last of its columns. -/
theorem succ_mod_eq_zero {c i : Nat} (hc : 0 < c) : (i + 1) % c = 0 ↔ i % c + 1 = c := by
  refine ⟨fun h => ?_, fun h => (place_of_full h).2⟩
  by_contra hne
  rw [(place_of_not_full hc hne).2] at h
  cases h

/-- A row end and a row start in one. -/
theorem rowEnd_append_rowStart (row : Nat) :
    rowEnd ++ rowStart row = "</tr>\n<tr class=\"row" ++ numberText row ++ "\">" := by
  have hsplit : "</tr>\n<tr class=\"row" = rowEnd ++ "<tr class=\"row" := rfl
  rw [hsplit, rowStart_eq, String.append_assoc, String.append_assoc, String.append_assoc]

/-- What a turn writes behind which no row begins. -/
theorem mark_same {name : String} {n c i : Nat} {text : String} {stop : Bool}
    (h : ¬((i + 1) % c = 0 ∧ i + 1 ≠ n ∧ stop = false)) :
    (tableCells name n c).mark i text stop = cellMark (i % c + 1) text :=
  (congrArg (_ ++ ·) (if_neg h)).trans String.append_empty

/-- What a turn writes behind which a row begins. -/
theorem mark_next {name : String} {n c i : Nat} {text : String} {stop : Bool}
    (h : (i + 1) % c = 0 ∧ i + 1 ≠ n ∧ stop = false) :
    (tableCells name n c).mark i text stop =
      cellMark (i % c + 1) text ++ (rowEnd ++ rowStart (i / c + 2)) :=
  congrArg (_ ++ ·) (if_pos h)

/-- **The counters of columns and rows are remainder and quotient** of the number of the turn. -/
theorem rowTurns_eq (name : String) {c : Nat} (hc : 0 < c) (body : Part) {items : List Value} :
    ∀ {i n : Nat}, i + items.length = n →
      rowTurns name n c body i (i / c + 1) (i % c + 1) items =
        (tableCells name n c).run body i items := by
  induction items with
  | nil => exact fun _ => rfl
  | cons item rest ih =>
      intro i n hn
      rw [List.length_cons] at hn
      have hrest := ih (i := i + 1) (n := n) (by omega)
      rw [rowTurns, run]
      refine bind_congr fun _ => bind_congr fun _ => bind_congr fun r => ?_
      obtain ⟨text, stop⟩ := r
      cases stop with
      | true =>
          have hmark : (tableCells name n c).mark i text true = cellMark (i % c + 1) text :=
            mark_same fun h => Bool.noConfusion h.2.2
          exact congrArg pure hmark.symm
      | false =>
          simp only [Bool.false_eq_true, if_false]
          by_cases hfull : i % c + 1 = c
          · obtain ⟨hdiv, hmod⟩ := place_of_full hfull
            rw [hdiv, hmod] at hrest
            by_cases hlast : i + 1 = n
            · -- there is no other turn, so it does not matter how the counters go on
              obtain rfl : rest = [] := List.eq_nil_of_length_eq_zero (by omega)
              rw [if_neg fun h => h.2 hlast, mark_same fun h => h.2.1 hlast]
              rfl
            · rw [if_pos ⟨hfull, hlast⟩, hrest, mark_next ⟨hmod, hlast, rfl⟩,
                rowEnd_append_rowStart]
              simp only [cellMark_eq, String.append_assoc]
          · obtain ⟨hdiv, hmod⟩ := place_of_not_full hc hfull
            rw [hdiv, hmod] at hrest
            rw [if_neg fun h => hfull h.1, hrest,
              mark_same fun h => hfull ((succ_mod_eq_zero hc).1 h.1)]
            rfl

end Loop

namespace Tags

variable {env : Surroundings} {parts rest : List Part} {binder collection body : Part}
  {s s₁ s₂ s₃ : State} {name : String} {items : List Value} {cols? : Option Int}

/-- There is at least one column. -/
theorem columnCount_pos (cols? : Option Int) (n : Nat) : 0 < columnCount cols? n := by
  unfold columnCount
  split
  · split
    · omega
    · exact Nat.lt_of_lt_of_le Nat.zero_lt_one (Nat.le_max_right _ _)
  · exact Nat.lt_of_lt_of_le Nat.zero_lt_one (Nat.le_max_right _ _)

/-- **A `tablerow` loop gives the cells of its turns in a table**, or the error of the turn that has
failed, and takes its scope away whatever the end. -/
theorem runOn_tablerowTag (hparts : positional parts = binder :: collection :: body :: rest)
    (hbody : body.KeepsScopes env) (hname : binder.text.runOn env s = (.ok name, s₁))
    (hitems : (collectItems collection (attributes parts)).runOn env s₁ = (.ok items, s₂))
    (hcols : (integerAttribute (attributes parts) "cols").runOn env s₂ = (.ok cols?, s₃)) :
    (tablerowTag parts).runOn env s =
      let L := Loop.tableCells name items.length (columnCount cols? items.length)
      let ts := L.turns env body s₃.context.inner 0 items s₃
      ((L.written 0 ts).map fun text => .str ("<tr class=\"row1\">\n" ++ text ++ "</tr>\n"),
        (Turn.last s₃ ts).withInner s₃.context.inner) := by
  have hc := columnCount_pos cols? items.length
  -- the loop begins in the first column of the first row
  have hloop := Loop.rowTurns_eq name hc body (Nat.zero_add items.length)
  rw [Nat.zero_div, Nat.zero_mod] at hloop
  unfold tablerowTag
  simp only [hparts]
  rw [Render.runOn_bind_ok _ _ hname, Render.runOn_bind_ok _ _ hitems,
    Render.runOn_bind_ok _ _ hcols, Render.runOn_bind, hloop, Loop.runOn_inScope hbody]
  cases Loop.written _ 0 _ <;> rfl

end Tags

/-! ### Rows -/

namespace Turn

/-- **Turns in rows of `c`**, behind the cells that stand in the first row already.  Another row
begins behind a full one, but only in front of a turn. -/
def rows (c : Nat) : List Turn → List Turn → List (List Turn)
  | row, [] => [row]
  | row, [t] => [row ++ [t]]
  | row, t :: u :: rest =>
      if row.length + 1 = c then (row ++ [t]) :: rows c [] (u :: rest)
      else rows c (row ++ [t]) (u :: rest)

/-- The cells of a row, from its first column on. -/
def cells (row : List Turn) : String :=
  String.join (row.mapIdx fun j t => Tags.cellMark (j + 1) t.text)

/-- The opening of a row, counted from zero; a line ends behind the one of the first row. -/
def rowOpening (r : Nat) : String := Tags.rowStart (r + 1) ++ if r = 0 then "\n" else ""

/-- A row of a table, counted from zero. -/
def tableRow (r : Nat) (row : List Turn) : String := rowOpening r ++ cells row ++ Tags.rowEnd

/-- The cells of some turns from turn `i` on, with the row ends between them. -/
def cellsFrom (c i : Nat) (ts : List Turn) : String :=
  String.join (ts.mapIdx fun j t => Tags.cellMark ((i + j) % c + 1) t.text ++
    if (i + j + 1) % c = 0 ∧ j + 1 < ts.length then Tags.rowEnd ++ Tags.rowStart ((i + j) / c + 2)
    else "")

end Turn

/-- **Turns laid out in rows of at most `c`**: every row but the last one is full, and only the
first one may be empty. -/
structure InRows (c : Nat) (ts : List Turn) (rows : List (List Turn)) : Prop where
  flatten : rows.flatten = ts
  ne_nil : rows ≠ []
  length_le {row : List Turn} : row ∈ rows → row.length ≤ c
  full {row : List Turn} : row ∈ rows.dropLast → row.length = c
  filled {row : List Turn} : row ∈ rows.tail → row ≠ []

namespace InRows

variable {c : Nat} {ts row : List Turn} {rows : List (List Turn)}

/-- Turns in one row. -/
theorem single (h : row.length ≤ c) : InRows c row [row] where
  flatten := List.append_nil row
  ne_nil := List.cons_ne_nil _ _
  length_le hmem := by
    rw [List.mem_singleton.1 hmem]
    exact h
  full hmem := by cases hmem
  filled hmem := by cases hmem

/-- Where there are turns, no row is empty. -/
theorem row_ne_nil (h : InRows c ts rows) (hc : 0 < c) (hts : ts ≠ []) :
    ∀ row ∈ rows, row ≠ [] := by
  intro row hmem hrow
  obtain ⟨first, more, rfl⟩ := List.exists_cons_of_ne_nil h.ne_nil
  obtain rfl | hmore := List.mem_cons.1 hmem
  · -- the first row: it is the only one or a full one
    cases more with
    | nil => exact hts (by rw [← h.flatten, hrow]; rfl)
    | cons second more =>
        have hfull : row.length = c := h.full (List.dropLast_cons_cons ▸ List.mem_cons_self)
        rw [hrow] at hfull
        exact Nat.lt_irrefl _ (hfull ▸ hc)
  · exact h.filled hmore hrow

/-- A full row in front of others. -/
theorem cons (h : InRows c ts rows) (hc : 0 < c) (hts : ts ≠ []) (hrow : row.length = c) :
    InRows c (row ++ ts) (row :: rows) where
  flatten := by rw [List.flatten_cons, h.flatten]
  ne_nil := List.cons_ne_nil _ _
  length_le hmem := by
    obtain rfl | hmore := List.mem_cons.1 hmem
    · exact Nat.le_of_eq hrow
    · exact h.length_le hmore
  full hmem := by
    rw [List.dropLast_cons_of_ne_nil h.ne_nil] at hmem
    obtain rfl | hmore := List.mem_cons.1 hmem
    · exact hrow
    · exact h.full hmore
  filled hmem := h.row_ne_nil hc hts _ hmem

end InRows

namespace Turn

open Tags

/-- **The rows of some turns are such rows.** -/
theorem inRows_rows {c : Nat} : ∀ (row ts : List Turn), row.length < c →
    InRows c (row ++ ts) (rows c row ts)
  | row, [], h => by
      rw [List.append_nil]
      exact .single (Nat.le_of_lt h)
  | row, [t], h => .single (by rw [List.length_append]; exact h)
  | row, t :: u :: rest, h => by
      have hc : 0 < c := Nat.lt_of_le_of_lt (Nat.zero_le _) h
      have hsplit : row ++ t :: u :: rest = row ++ [t] ++ u :: rest :=
        List.append_cons ..
      have hlength : (row ++ [t]).length = row.length + 1 := List.length_append
      rw [rows, hsplit]
      split
      · next hfull =>
          exact (inRows_rows [] _ hc).cons hc (List.cons_ne_nil _ _) (hlength.trans hfull)
      · next hspace => exact inRows_rows _ _ (by omega)

/-- The last cell of a row. -/
theorem cells_append (row : List Turn) (t : Turn) :
    cells (row ++ [t]) = cells row ++ cellMark (row.length + 1) t.text := by
  rw [cells, List.mapIdx_append, String.join_append, List.mapIdx_cons, List.mapIdx_nil,
    String.join_cons, String.join_nil, String.append_empty, Nat.zero_add]
  rfl

/-- The first of some cells. -/
theorem cellsFrom_cons (c i : Nat) (t : Turn) (rest : List Turn) :
    cellsFrom c i (t :: rest) = cellMark (i % c + 1) t.text ++
      (if (i + 1) % c = 0 ∧ rest ≠ [] then rowEnd ++ rowStart (i / c + 2) else "") ++
        cellsFrom c (i + 1) rest := by
  have hmore : 0 < rest.length ↔ rest ≠ [] := List.length_pos_iff
  simp only [cellsFrom, List.mapIdx_cons, String.join_cons, Nat.add_zero, Nat.zero_add, hmore,
    List.length_cons, Nat.add_lt_add_iff_right, Nat.add_assoc, Nat.add_comm 1]

/-- **Cells with row ends between them are rows**, where the cells of `row` stand in front of
turn `i` in the row of that turn. -/
theorem cells_eq_rows {c : Nat} (hc : 0 < c) : ∀ (row ts : List Turn) {i : Nat},
    row.length = i % c →
      String.join ((rows c row ts).mapIdx fun k => tableRow (i / c + k)) =
        rowOpening (i / c) ++ cells row ++ cellsFrom c i ts ++ rowEnd
  | row, [], i, _ => by
      rw [rows, List.mapIdx_cons, List.mapIdx_nil, String.join_cons, String.join_nil,
        String.append_empty, Nat.add_zero, cellsFrom, List.mapIdx_nil, String.join_nil,
        String.append_empty, tableRow]
  | row, [t], i, hrow => by
      rw [rows, List.mapIdx_cons, List.mapIdx_nil, String.join_cons, String.join_nil,
        String.append_empty, Nat.add_zero, cellsFrom_cons, if_neg fun h => h.2 rfl, tableRow,
        cells_append, hrow]
      simp only [cellsFrom, List.mapIdx_nil, String.join_nil, String.append_empty,
        String.append_assoc]
  | row, t :: u :: rest, i, hrow => by
      rw [rows, cellsFrom_cons]
      by_cases hfull : i % c + 1 = c
      · obtain ⟨hdiv, hmod⟩ := Loop.place_of_full hfull
        have hrest := cells_eq_rows hc [] (u :: rest) hmod.symm
        have hopening : rowOpening (i / c + 1) = rowStart (i / c + 2) := String.append_empty
        rw [if_pos (hrow ▸ hfull), if_pos ⟨hmod, List.cons_ne_nil _ _⟩, List.mapIdx_cons,
          String.join_cons, tableRow, cells_append, hrow, Nat.add_zero]
        rw [hdiv, hopening] at hrest
        simp only [Nat.add_assoc, Nat.add_comm 1] at hrest ⊢
        rw [hrest]
        simp only [cells, List.mapIdx_nil, String.join_nil, String.append_empty,
          String.append_assoc]
      · obtain ⟨hdiv, hmod⟩ := Loop.place_of_not_full hc hfull
        have hlength : (row ++ [t]).length = (i + 1) % c := by
          rw [List.length_append, hmod, hrow]
          rfl
        have hrest := cells_eq_rows hc _ (u :: rest) hlength
        rw [hdiv, cells_append, hrow] at hrest
        rw [if_neg (hrow ▸ hfull), if_neg fun h => hfull ((Loop.succ_mod_eq_zero hc).1 h.1), hrest,
          String.append_empty]
        simp only [String.append_assoc]

end Turn

/-! ### The layout -/

/-- **The number of columns**: what is asked for, if that is positive, else one for each item, and
one where there is none. -/
structure ColumnsOf (cols? : Option Int) (n c : Nat) : Prop where
  pos : 1 ≤ c
  asked {k : Int} : cols? = some k → 0 < k → (c : Int) = k
  otherwise : (∀ k : Int, cols? = some k → k ≤ 0) → c = if n = 0 then 1 else n

/-- The count of columns is such a number. -/
theorem Tags.columnsOf_columnCount (cols? : Option Int) (n : Nat) :
    ColumnsOf cols? n (columnCount cols? n) where
  pos := columnCount_pos cols? n
  asked hasked hk := by
    subst hasked
    rw [columnCount, if_pos hk]
    exact Int.toNat_of_nonneg (Int.le_of_lt hk)
  otherwise hnone := by
    have hcount : columnCount cols? n = max n 1 := by
      unfold columnCount
      split
      · next k => exact if_neg (Int.not_lt.2 (hnone k rfl))
      · rfl
    rw [hcount]
    split <;> omega

/-- **What the body reads about its cell** in turn `i`, counted from zero. -/
structure TellsCell (fields : List (Value × Value)) (c i : Nat) : Prop where
  col : Value.lookupEntry fields (.str "col") = some (.int (i % c + 1))
  col0 : Value.lookupEntry fields (.str "col0") = some (.int (i % c))
  row : Value.lookupEntry fields (.str "row") = some (.int (i / c + 1))
  colFirst : Value.lookupEntry fields (.str "col_first") = some (.bool (i % c + 1 = 1))
  colLast : Value.lookupEntry fields (.str "col_last") = some (.bool (i % c + 1 = c))

/-- The fields of a cell tell its place, whatever can be read about the turn. -/
theorem tellsCell_cellFields (itemName : String) (n c i : Nat) :
    TellsCell (Tags.turnFields itemName i n ++ Tags.cellFields c (i % c + 1) (i / c + 1)) c i where
  col := rfl
  col0 := by
    have hcol0 : ((i % c + 1 : Nat) : Int) - 1 = (i : Int) % c := by
      rw [Int.natCast_add, Int.natCast_one, Int.add_sub_cancel, Int.natCast_emod]
    rw [← hcol0]
    rfl
  row := rfl
  colFirst := rfl
  colLast := rfl

namespace Loop

/-- **A turn is followed by another one** if it is not the one for the last item and does not
break. -/
theorem Course.followed_iff {env : Surroundings} {body : Part} {items : List Value} {s : State}
    {ts : List Turn} (h : Course env body items s ts) (hle : ts.length ≤ items.length) {i : Nat}
    {t : Turn} (ht : ts[i]? = some t) :
    i + 1 ≠ items.length ∧ t.breaks = false ↔ i + 1 < ts.length := by
  obtain ⟨hi, rfl⟩ := List.getElem?_eq_some_iff.1 ht
  constructor
  · rintro ⟨hitems, hbreaks⟩
    by_contra hlast
    -- it is the last turn: then no turn breaks, and there is one for each item
    have hlength : ts.length = i + 1 := by omega
    have hnone : ∀ u ∈ ts, u.breaks = false := by
      intro u hu
      obtain ⟨j, hj, rfl⟩ := List.mem_iff_getElem.1 hu
      by_contra hu'
      have hstop := h.stops (List.getElem?_eq_getElem hj) (Bool.not_eq_false _ ▸ hu')
      obtain rfl : j = i := by omega
      exact hu' hbreaks
    exact hitems (hlength ▸ h.completes hnone)
  · intro hmore
    refine ⟨by omega, ?_⟩
    by_contra hbreaks
    have hstop := h.stops ht (Bool.not_eq_false _ ▸ hbreaks)
    omega

/-- The marks of a table are its cells, with a row end behind each full row that another cell
follows. -/
theorem join_marks {env : Surroundings} {body : Part} {items : List Value} {s : State}
    {ts : List Turn} (h : Course env body items s ts) (hle : ts.length ≤ items.length)
    (name : String) (c : Nat) :
    String.join (ts.mapIdx fun i t => (tableCells name items.length c).mark i t.text t.breaks) =
      Turn.cellsFrom c 0 ts := by
  refine congrArg String.join (List.ext_getElem? fun i => ?_)
  rw [List.getElem?_mapIdx, List.getElem?_mapIdx]
  cases ht : ts[i]? with
  | none => rfl
  | some t =>
      simp only [Option.map_some, tableCells, h.followed_iff hle ht, Nat.zero_add]

end Loop

namespace Engine

open Tags

/-- **A `tablerow` loop lays out its turns in a table.**  The body of a loop may be every tree of
standard tags, and every other part that leaves the scopes around it alone.  Where the name, the
collection and the attributes of the loop have given `name`, `items` and `cols?`, and no turn
fails:

* there is at least one column, and as many as are asked for, if that is a positive number;
* the loop gives the cells of its turns, with a row end behind each full row unless its last turn
  breaks or is the one for the last item;
* these cells are rows: each of them is opened and closed, none has more cells than columns, and
  none behind the first is empty;
* its turns are renders of the body one after another, up to the first break or the last item;
* in turn `i` the innermost scope binds the item and `tablerowloop` and nothing else. -/
theorem tablerow_lays_out :
    (∀ {e : Engine}, (e.MadeOf fun _ => true) → ∀ {n : Node}, n.isMadeOf (fun _ => true) = true →
      ∀ now depth, n.part.KeepsScopes (e.surroundings now depth)) ∧
    ∀ {env : Surroundings} {t : Tag} {children : List Node} {binder collection body : Part}
      {rest : List Part} {s s₁ s₂ s₃ : State} {name : String} {items : List Value}
      {cols? : Option Int},
      t.body = .standard .tablerow →
      positional (Node.parts children) = binder :: collection :: body :: rest →
      body.KeepsScopes env →
      binder.text.runOn env s = (.ok name, s₁) →
      (collectItems collection (attributes (Node.parts children))).runOn env s₁ =
        (.ok items, s₂) →
      (integerAttribute (attributes (Node.parts children)) "cols").runOn env s₂ =
        (.ok cols?, s₃) →
      let n := items.length
      let c := columnCount cols? n
      let ts := (Loop.tableCells name n c).turns env body s₃.context.inner 0 items s₃
      (∀ u ∈ ts, u.succeeds = true) →
        ColumnsOf cols? n c ∧
        (∃ text, (Node.tag t children).render.runOn env s =
            (.ok (.str text), (Turn.last s₃ ts).withInner s₃.context.inner) ∧
          text = "<tr class=\"row1\">\n" ++
            String.join (ts.mapIdx fun i u => cellMark (i % c + 1) u.text ++
              if (i + 1) % c = 0 ∧ i + 1 ≠ n ∧ u.breaks = false then
                "</tr>\n" ++ rowStart (i / c + 2)
              else "") ++ "</tr>\n" ∧
          ∃ rows, InRows c ts rows ∧ text = String.join (rows.mapIdx Turn.tableRow)) ∧
        Loop.Course env body items s₃ ts ∧
        ∀ i u, ts[i]? = some u → ∃ item fields, items[i]? = some item ∧
          u.Sees s₃.context.inner name item "tablerowloop" fields ∧
            TellsTurn fields name n i ∧ TellsCell fields c i := by
  refine ⟨fun he _ hn now depth => keepsScopes_part he hn now depth, ?_⟩
  intro env t children binder collection body rest s s₁ s₂ s₃ name items cols? ht hparts hbody hname
    hitems hcols n c ts hok
  have hc : 0 < c := columnCount_pos cols? n
  have hcourse : Loop.Course env body items s₃ ts := Loop.course_turns hok
  have hle : ts.length ≤ n := Loop.length_turns_le 0 s₃
  have hmarks := Loop.join_marks hcourse hle name c
  refine ⟨columnsOf_columnCount cols? n,
    ⟨_, ?_, rfl, Turn.rows c [] ts, Turn.inRows_rows [] ts hc, ?_⟩, hcourse, fun i u hu => ?_⟩
  · have hwritten := Loop.written_of_succeeds (L := Loop.tableCells name n c) hok 0
    simp only [Nat.zero_add] at hwritten
    rw [Node.render_tag, Tag.run, ht]
    refine (runOn_tablerowTag hparts hbody hname hitems hcols).trans ?_
    simp only
    rw [hwritten]
    rfl
  · have hrows := Turn.cells_eq_rows hc [] ts (Nat.zero_mod c).symm
    rw [← hmarks, Nat.zero_div] at hrows
    simp only [Nat.zero_add] at hrows
    exact hrows.symm
  · obtain ⟨item, hitem, hsees⟩ := Loop.sees_turn hu rfl
    exact ⟨item, _, hitem, hsees, tellsTurn_turnFields name n i _, tellsCell_cellFields name n c i⟩

/-- A body that writes its item and leaves the loop at the fourth one. -/
def brokenRowBody : Node :=
  .block [.lookup "x" [],
    .tag (.ofStandard .if) [.compare .eq (.lookup "x" []) (.literal (.str "d")), .signal .break],
    .text ";"]

/-- Five items. -/
def brokenRowItems : List Value := [.str "a", .str "b", .str "c", .str "d", .str "e"]

/-- A loop over these items in two columns with that body. -/
def brokenRowChildren : List Node :=
  [.literal (.str "x"), .literal (.list brokenRowItems), brokenRowBody,
    .attribute "cols" (.literal (.int 2))]

/-- The loop ends with the last cell of its second row, behind which no other row begins. -/
theorem tablerow_lays_out_brokenRow :
    ((Node.tag (.ofStandard .tablerow) brokenRowChildren).render.runOn
      ((new {}).surroundings default 1) ((new {}).start (.ofVariables ∅) ∅)).1 = .ok (.str
        ("<tr class=\"row1\">\n<td class=\"col1\">a;</td><td class=\"col2\">b;</td></tr>\n" ++
          "<tr class=\"row2\"><td class=\"col1\">c;</td><td class=\"col2\">d</td></tr>\n")) := by
  have he : (new {}).MadeOf fun _ => true := fun name n hn => by
    cases hn
  have hbody := tablerow_lays_out.1 he (n := brokenRowBody) rfl default 1
  have hparts : positional (Node.parts brokenRowChildren) =
      [(Node.literal (.str "x")).part, (Node.literal (.list brokenRowItems)).part,
        brokenRowBody.part] := rfl
  have hitems (s : State) : (collectItems (Node.literal (.list brokenRowItems)).part
      (attributes (Node.parts brokenRowChildren))).runOn ((new {}).surroundings default 1) s =
        (.ok brokenRowItems, s) := rfl
  have hcols (s : State) :
      (integerAttribute (attributes (Node.parts brokenRowChildren)) "cols").runOn
        ((new {}).surroundings default 1) s = (.ok (some 2), s) := rfl
  obtain ⟨-, ⟨text, hrun, htext, -⟩, -⟩ := tablerow_lays_out.2 (t := .ofStandard .tablerow) rfl
    hparts hbody rfl (hitems ((new {}).start (.ofVariables ∅) ∅)) (hcols _)
      (List.all_eq_true.1 (by decide))
  rw [hrun, htext]
  rfl

end Engine

end TemplateEngine
