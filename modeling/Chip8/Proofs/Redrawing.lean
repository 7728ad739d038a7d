import Chip8.Proofs.Tallies

/-!
# Drawing again, and in another order

Drawing flips pixels, so it does not matter in which order sprites are drawn, and a sprite that is drawn twice is
gone.  Programs erase by this.

`Draw` is what a word draws, apart from how it gets there: `Machine.Poised` says that a machine is about to
make a draw, whichever registers and cells hold it.  `Machine.Performs` makes one draw after the other, and in
between anything may happen that leaves the screen alone.
-/

namespace Chip8

/-- A sprite of at most fifteen rows, and where its corner goes. -/
structure Draw where
  x : Byte
  y : Byte
  rows : List Byte
  short : rows.length ≤ 15

namespace Draw

variable (d : Draw)

/-- Whether a draw covers a pixel. -/
def covers (column row : Nat) : Bool := Screen.spritePixel d.x.toNat d.y.toNat d.rows column row

/-- The second byte of the word that draws as many rows at the place which `V0` and `V1` name. -/
def low : Byte := BitVec.ofNat 8 (0x10 + d.rows.length)

/-- That word. -/
def word : Word := Word.ofBytes 0xD0 d.low

theorem length_le : d.rows.length ≤ 32 := Nat.le_trans d.short (by decide)

theorem toNat_word : d.word.toNat = 0xD010 + d.rows.length := by
  have short := d.short
  have toNat_low : d.low.toNat = 0x10 + d.rows.length := by
    rw [low, BitVec.toNat_ofNat, Nat.mod_eq_of_lt (by omega)]
  rw [word, Word.toNat_ofBytes, toNat_low]
  show 256 * 0xD0 + (0x10 + d.rows.length) = _
  omega

end Draw

namespace Screen

variable {s t : Screen}

/-- The rows of a screen are told by its pixels. -/
theorem rows_eq_of_pixel (same : ∀ x < 64, ∀ y < 32, s.pixel x y = t.pixel x y) : s.rows = t.rows := by
  refine Vector.ext fun y below => BitVec.eq_of_getMsbD_eq fun x inside => ?_
  have here := same x inside y below
  simp only [pixel, row, dif_pos below] at here
  exact here

theorem pixel_congr (same : s.rows = t.rows) (x y : Nat) : s.pixel x y = t.pixel x y := by
  rw [pixel, pixel, row, row, same]

theorem eq_of_rows (rows : s.rows = t.rows) (flag : s.drawFlag = t.drawFlag) : s = t := by
  cases s
  cases t
  rw [mk.injEq]
  exact ⟨rows, flag⟩

variable (s) (d e : Draw)

/-- The screen after a draw. -/
def draw : Screen := (s.drawSprite d.x.toNat d.y.toNat d.rows).2

/-- A set bit of the draw falls on a pixel that is lit, or on one that is dark. -/
def Meets (lit : Bool) : Prop :=
  ∃ r < d.rows.length, ∃ c < 8, (d.rows.getD r 0).getMsbD c = true ∧
    s.pixel ((d.x.toNat + c) % 64) ((d.y.toNat + r) % 32) = lit

instance (lit : Bool) : Decidable (s.Meets d lit) :=
  inferInstanceAs (Decidable (∃ r < d.rows.length, ∃ c < 8, (d.rows.getD r 0).getMsbD c = true ∧
    s.pixel ((d.x.toNat + c) % 64) ((d.y.toNat + r) % 32) = lit))

theorem pixel_draw {column row : Nat} (inside : column < 64) (below : row < 32) :
    (s.draw d).pixel column row = (s.pixel column row ^^ d.covers column row) :=
  s.pixel_drawSprite _ _ _ d.length_le inside below

/-- The draw flag goes up unless the draw is empty. -/
theorem drawFlag_draw : (s.draw d).drawFlag = (s.drawFlag || d.rows.any (· != 0)) :=
  s.drawFlag_drawSprite _ _ _

/-! ### Order -/

/-- Two draws may be exchanged. -/
theorem draw_right_comm : (s.draw d).draw e = (s.draw e).draw d := by
  refine eq_of_rows (rows_eq_of_pixel fun x inside y below => ?_) ?_
  · simp only [pixel_draw _ _ inside below]
    exact Bool.xor_right_comm _ _ _
  · simp only [drawFlag_draw]
    exact Bool.or_right_comm _ _ _

/-- The same draw twice leaves the rows as they were. -/
theorem rows_draw_draw : ((s.draw d).draw d).rows = s.rows := by
  refine rows_eq_of_pixel fun x inside y below => ?_
  rw [pixel_draw _ _ inside below, pixel_draw _ _ inside below, Bool.xor_assoc, Bool.xor_self,
    Bool.xor_false]

variable {s d}

theorem rows_draw_congr (same : s.rows = t.rows) : (s.draw d).rows = (t.draw d).rows := by
  refine rows_eq_of_pixel fun x inside y below => ?_
  rw [pixel_draw _ _ inside below, pixel_draw _ _ inside below, pixel_congr same]

theorem rows_foldl_draw_congr (ds : List Draw) (same : s.rows = t.rows) :
    (ds.foldl draw s).rows = (ds.foldl draw t).rows := by
  induction ds generalizing s t with
  | nil => exact same
  | cons d later ih => exact ih (rows_draw_congr same)

theorem foldl_draw_perm {ds es : List Draw} (reordered : ds.Perm es) :
    ds.foldl draw s = es.foldl draw s :=
  reordered.foldl_eq' (fun d _ e _ t => t.draw_right_comm d e) s

/-! ### Bits and pixels -/

/-- The pixels that a draw covers are those on which its set bits fall. -/
theorem exists_covered_iff {p : Nat → Nat → Prop} :
    (∃ column < 64, ∃ row < 32, p column row ∧ d.covers column row = true) ↔
      ∃ r < d.rows.length, ∃ c < 8, (d.rows.getD r 0).getMsbD c = true ∧
        p ((d.x.toNat + c) % 64) ((d.y.toNat + r) % 32) := by
  have fits := d.length_le
  constructor
  · rintro ⟨column, inside, row, below, holds, covered⟩
    obtain ⟨r, c, falls⟩ := exists_falls_of_spritePixel _ _ _ inside below covered
    have set := (spritePixel_of_falls falls fits).symm.trans covered
    refine ⟨r, falls.row_lt, c, falls.column_lt, set, ?_⟩
    rw [← falls.column_eq, ← falls.row_eq]
    exact holds
  · rintro ⟨r, row_lt, c, column_lt, set, holds⟩
    have falls : Falls d.x.toNat d.y.toNat d.rows.length r c _ _ := ⟨row_lt, column_lt, rfl, rfl⟩
    exact ⟨_, Nat.mod_lt _ (by decide), _, Nat.mod_lt _ (by decide), holds,
      (spritePixel_of_falls falls fits).trans set⟩

/-- A draw erases something if a set bit falls on a lit pixel. -/
theorem erases_iff_meets :
    (s.drawSprite d.x.toNat d.y.toNat d.rows).1 = true ↔ s.Meets d true := by
  rw [drawSprite_erases_iff s _ _ _ d.length_le]
  exact exists_covered_iff

/-- What a draw finds lit if it is made again is what it found dark. -/
theorem draw_meets_iff : (s.draw d).Meets d true ↔ s.Meets d false := by
  unfold Meets
  rw [← exists_covered_iff (p := fun x y => (s.draw d).pixel x y = true),
    ← exists_covered_iff (p := fun x y => s.pixel x y = false)]
  refine exists_congr fun x => and_congr_right fun inside => exists_congr fun y =>
    and_congr_right fun below => and_congr_left fun covered => ?_
  rw [pixel_draw _ _ inside below, covered, Bool.xor_true, Bool.not_eq_true']

end Screen

/-! ### Machines -/

namespace Machine

/-- The word at the program counter draws, and the registers and cells that it names hold the draw. -/
structure Poised (m : Machine) (word : Word) (d : Draw) : Prop where
  fetched : m.fetch = .ok word
  draws : word.toNat / 4096 = 0xD
  column : m.v (Register.ofNat (word.toNat / 256)) = d.x
  row : m.v (Register.ofNat (word.toNat / 16)) = d.y
  fits : word.toNat % 16 = 0 ∨ m.registers.i.toNat + word.toNat % 16 ≤ 4096
  rows : m.memory.slice m.registers.i.toNat (word.toNat % 16) = d.rows

/-- The machine with the program counter somewhere else. -/
def movedTo (m : Machine) (pc : Word) : Machine := { m with registers := { m.registers with pc } }

/-- Makes the draws one after the other.  Before each of them and at the end the machine may be set up in any way
that keeps the screen. -/
inductive Performs : Machine → List Draw → Machine → Prop
  | done (m : Machine) : Performs m [] m
  | setUp {m m' last : Machine} {ds : List Draw} :
      m'.screen = m.screen → Performs m' ds last → Performs m ds last
  | draw {m last : Machine} {sent : List Signal} {word : Word} {work : Work} {d : Draw} {ds : List Draw} :
      m.Poised word d → Processor.step.run ⟨m, sent⟩ = .ok word work →
      Performs work.machine ds last → Performs m (d :: ds) last

/-- The machine with the draw in its memory and its registers, and the word that makes it. -/
def readiedFor (m : Machine) (d : Draw) : Machine :=
  { m with
    memory := (m.memory.store 0x200 [0xD0, d.low]).store 0x300 d.rows
    registers :=
      { (Registers.initial.set (Register.ofNat 0) d.x).set (Register.ofNat 1) d.y with i := 0x300 } }

theorem get_readiedFor (m : Machine) (d : Draw) {k : Nat} (inside : k < 2) :
    (m.readiedFor d).memory.get (0x200 + k) = [0xD0, d.low][k] := by
  have code := Memory.get_store_of_inside m.memory 0x200 k [0xD0, d.low] inside
    (Nat.le_of_ble_eq_true rfl)
  rw [← code]
  exact Memory.get_store_of_outside _ _ _ _ (.inl (by omega))

/-- Any machine can be readied for any draw. -/
theorem poised_readiedFor (m : Machine) (d : Draw) : (m.readiedFor d).Poised d.word d := by
  have short := d.short
  have toNat_word := d.toNat_word
  constructor
  case fetched =>
    have inside : Registers.initial.pc.toNat ≤ 0xFFE := by decide
    refine fetch_of_inside inside ?_
    show Word.ofBytes ((m.readiedFor d).memory.get (0x200 + 0))
      ((m.readiedFor d).memory.get (0x200 + 1)) = _
    rw [m.get_readiedFor d (by decide), m.get_readiedFor d (by decide)]
    rfl
  case draws => omega
  case column =>
    have first : Register.ofNat (d.word.toNat / 256) = Register.ofNat 0 := by
      rw [show d.word.toNat / 256 = 0xD0 by omega]
      rfl
    rw [first]
    exact (Registers.get_set_of_ne _ (by decide) _).trans (Registers.get_set_self _ _ _)
  case row =>
    have second : Register.ofNat (d.word.toNat / 16) = Register.ofNat 1 := by
      rw [show d.word.toNat / 16 = 0xD01 by omega]
      rfl
    rw [second]
    exact Registers.get_set_self _ _ _
  case fits =>
    have index : (m.readiedFor d).registers.i.toNat = 0x300 := rfl
    exact .inr (by omega)
  case rows =>
    rw [show d.word.toNat % 16 = d.rows.length by omega]
    exact Memory.slice_store _ (show 0x300 + _ ≤ 4096 by omega)

namespace Poised

variable {m : Machine} {word : Word} {d : Draw}

/-- A word that draws makes the draw that it finds. -/
theorem of_fits (fetched : m.fetch = .ok word) (draws : word.toNat / 4096 = 0xD)
    (fits : word.toNat % 16 = 0 ∨ m.registers.i.toNat + word.toNat % 16 ≤ 4096) :
    ∃ d : Draw, d.rows = m.memory.slice m.registers.i.toNat (word.toNat % 16) ∧ m.Poised word d := by
  have short : (m.memory.slice m.registers.i.toNat (word.toNat % 16)).length ≤ 15 := by
    rw [Memory.length_slice]
    omega
  exact ⟨⟨_, _, _, short⟩, rfl, fetched, draws, rfl, rfl, fits, rfl⟩

/-- What the word does is the draw, and it leaves the flag behind. -/
theorem step (poised : m.Poised word d) (sent : List Signal) :
    ∃ work, Processor.step.run ⟨m, sent⟩ = .ok word work ∧
      work.machine.screen = m.screen.draw d ∧
      work.machine.v Register.flag = (if m.screen.Meets d true then 1 else 0) ∧
      work.machine.memory = m.memory ∧ work.machine.registers.i = m.registers.i ∧
      ∀ x, x ≠ Register.flag → work.machine.v x = m.v x := by
  obtain ⟨fetched, draws, column, row, fits, rows⟩ := poised
  have low : word.toNat % 16 < 16 := Nat.mod_lt _ (by decide)
  have spells : (Instruction.drawSprite (Register.ofNat (word.toNat / 256))
      (Register.ofNat (word.toNat / 16)) ⟨word.toNat % 16, low⟩).spells word.toNat :=
    ⟨draws, rfl, rfl, rfl⟩
  let drawn := m.screen.drawSprite d.x.toNat d.y.toNat d.rows
  have found : m.screen.drawSprite (m.v (Register.ofNat (word.toNat / 256))).toNat
      (m.v (Register.ofNat (word.toNat / 16))).toNat
      (m.memory.slice m.registers.i.toNat (word.toNat % 16)) = (drawn.1, drawn.2) := by
    rw [column, row, rows]
  have executed := m.execute_drawSprite _ _ ⟨word.toNat % 16, low⟩ fits found
  have stepped := step_of_execute fetched (Instruction.ofWord?_of_spells spells) executed
  refine ⟨_, Processor.step_run_eq_ok_iff.mpr ⟨_, stepped, rfl, rfl⟩, rfl, ?_, rfl, rfl, ?_⟩
  · refine (m.registers.get_set_self Register.flag _).trans ?_
    exact ite_congr (propext Screen.erases_iff_meets) (fun _ => rfl) fun _ => rfl
  · exact fun x other => m.registers.get_setFlag drawn.1 other

/-- A machine that still has the coordinates and the sprite can make the draw once more. -/
theorem again (poised : m.Poised word d) {m' : Machine} (fetched : m'.fetch = .ok word)
    (memory : m'.memory = m.memory) (index : m'.registers.i = m.registers.i)
    (column : m'.v (Register.ofNat (word.toNat / 256)) = m.v (Register.ofNat (word.toNat / 256)))
    (row : m'.v (Register.ofNat (word.toNat / 16)) = m.v (Register.ofNat (word.toNat / 16))) :
    m'.Poised word d where
  fetched := fetched
  draws := poised.draws
  column := column.trans poised.column
  row := row.trans poised.row
  fits := index ▸ poised.fits
  rows := by rw [memory, index, poised.rows]

end Poised

/-- All draws can be performed, one after the other. -/
theorem exists_performs (m : Machine) (ds : List Draw) : ∃ last, Performs m ds last := by
  induction ds generalizing m with
  | nil => exact ⟨m, .done m⟩
  | cons d later ih =>
    have kept : (m.readiedFor d).screen = m.screen := rfl
    obtain ⟨work, ran, -⟩ := (m.poised_readiedFor d).step []
    obtain ⟨last, performs⟩ := ih work.machine
    exact ⟨last, .setUp kept (.draw (m.poised_readiedFor d) ran performs)⟩

/-- The screen at the end depends on the screen at the beginning and on the draws alone. -/
theorem screen_of_performs {m last : Machine} {ds : List Draw} (performs : Performs m ds last) :
    last.screen = ds.foldl Screen.draw m.screen := by
  induction performs with
  | done m => rfl
  | setUp kept _ ih => rw [ih, kept]
  | draw poised ran _ ih =>
    obtain ⟨work, ran', screen, -⟩ := poised.step _
    cases ran.symm.trans ran'
    rw [ih, screen]
    rfl

end Machine

namespace Processor

open Screen Machine

/-- Draws can be made in any order, and two equal ones cancel.

A word that draws and finds its coordinates in other registers than `VF` leaves the screen as it was if it is
carried out twice.  The first time `VF` says whether a set bit of the sprite has fallen on a lit pixel, and the
second time whether one had fallen on a dark pixel.

Every draw adds the set bits to the number of lit pixels and takes off two for each pixel erased. -/
theorem draws_commute_and_cancel :
    (∀ (m : Machine) (ds : List Draw), ∃ last, Performs m ds last) ∧
    (∀ (m first last : Machine) (ds es : List Draw), Performs m ds first → Performs m es last →
      (ds.Perm es → first.screen = last.screen) ∧
      ∀ d, ds.Perm (d :: d :: es) → first.screen.rows = last.screen.rows) ∧
    (∀ (m : Machine) (sent : List Signal) (word : Word) (d : Draw), m.Poised word d →
      Register.ofNat (word.toNat / 256) ≠ Register.flag →
      Register.ofNat (word.toNat / 16) ≠ Register.flag →
      ∃ first, step.run ⟨m, sent⟩ = .ok word first ∧
        first.machine.v Register.flag = (if m.screen.Meets d true then 1 else 0) ∧
        ∀ pc, (first.machine.movedTo pc).fetch = .ok word →
          ∃ second, step.run ⟨first.machine.movedTo pc, first.sent⟩ = .ok word second ∧
            second.machine.screen.rows = m.screen.rows ∧
            second.machine.v Register.flag = (if m.screen.Meets d false then 1 else 0)) ∧
    ∀ (m : Machine) (sent : List Signal) (word : Word),
      m.fetch = .ok word → word.toNat / 4096 = 0xD →
      (word.toNat % 16 = 0 ∨ m.registers.i.toNat + word.toNat % 16 ≤ 4096) →
      ∃ work, step.run ⟨m, sent⟩ = .ok word work ∧
        work.machine.screen.litCount + 2 * m.screen.erasedCount work.machine.screen =
          m.screen.litCount + setBits (m.memory.slice m.registers.i.toNat (word.toNat % 16)) := by
  refine ⟨exists_performs, ?_, ?_, ?_⟩
  · intro m first last ds es performs performs'
    have screen := screen_of_performs performs
    have screen' := screen_of_performs performs'
    refine ⟨fun reordered => ?_, fun d reordered => ?_⟩
    · rw [screen, screen', foldl_draw_perm reordered]
    · rw [screen, screen', foldl_draw_perm reordered]
      exact rows_foldl_draw_congr es (m.screen.rows_draw_draw d)
  · intro m sent word d poised columnApart rowApart
    obtain ⟨first, ran, screen, flag, memory, index, spared⟩ := poised.step sent
    refine ⟨first, ran, flag, fun pc fetched => ?_⟩
    have poised' : (first.machine.movedTo pc).Poised word d :=
      poised.again fetched memory index (spared _ columnApart) (spared _ rowApart)
    obtain ⟨second, ran', screen', flag', -⟩ := poised'.step first.sent
    have between : (first.machine.movedTo pc).screen = m.screen.draw d := screen
    refine ⟨second, ran', ?_, ?_⟩
    · rw [screen', between, rows_draw_draw]
    · rw [flag', between]
      exact ite_congr (propext draw_meets_iff) (fun _ => rfl) fun _ => rfl
  · intro m sent word fetched draws fits
    obtain ⟨d, rows, poised⟩ := Poised.of_fits fetched draws fits
    obtain ⟨work, ran, screen, -⟩ := poised.step sent
    refine ⟨work, ran, ?_⟩
    rw [screen, ← rows]
    exact litCount_drawSprite _ _ _ _ d.length_le

/-- The zero in the last corner, where it goes around both edges and meets the one pixel that is lit, and the same
once more. -/
theorem draws_commute_and_cancel_corner :
    let m := { Machine.initial (.listed [] 0) with
      memory := Memory.initial.store 0x200 [0xD0, 0x15, 0xD0, 0x15]
      registers := (Registers.initial.set (Register.ofNat 0) 62).set (Register.ofNat 1) 30
      screen := Screen.blank.xorRow 2 (Screen.columnMask 1) }
    ∃ (d : Draw) (first second : Machine), Performs m [d] first ∧ Performs m [d, d] second ∧
      first.v Register.flag = 1 ∧
      first.screen.litCount + 2 * m.screen.erasedCount first.screen = m.screen.litCount + 14 ∧
      second.v Register.flag = 1 ∧ second.screen.rows = m.screen.rows := by
  intro m
  let d : Draw := ⟨62, 30, [0xF0, 0x90, 0x90, 0x90, 0xF0], by decide⟩
  let Ready (m : Machine) : Prop :=
    m.registers.pc.toNat ≤ 0xFFE ∧ m.nextWord = 0xD015 ∧ m.v (Register.ofNat (0xD015 / 256)) = d.x ∧
      m.v (Register.ofNat (0xD015 / 16)) = d.y ∧ m.registers.i = 0 ∧ m.memory.slice 0 5 = d.rows
  have facts : Ready m ∧ Ready (m.next.movedTo 0x202) ∧ m.screen.Meets d true ∧
      m.screen.Meets d false ∧ setBits d.rows = 14 := by
    decide +kernel
  have poised {m : Machine} (ready : Ready m) : m.Poised 0xD015 d := by
    obtain ⟨inside, found, column, row, index, rows⟩ := ready
    have start : m.registers.i.toNat = 0 := by rw [index]; rfl
    refine ⟨fetch_of_inside inside found, by decide, column, row, .inr ?_, ?_⟩
    · rw [start]
      decide
    · rw [start]
      exact rows
  obtain ⟨ready, ready', lit, dark, fourteen⟩ := facts
  obtain ⟨-, cancel, twice, counts⟩ := draws_commute_and_cancel
  obtain ⟨first, ran, flag, again⟩ := twice m [] 0xD015 d (poised ready) (by decide) (by decide)
  rw [← next_of_run ran] at ready'
  obtain ⟨second, ran', -, flag'⟩ := again 0x202 (poised ready').fetched
  obtain ⟨work, ran'', counted⟩ :=
    counts m [] 0xD015 (poised ready).fetched (by decide) (poised ready).fits
  cases ran.symm.trans ran''
  have kept : (first.machine.movedTo 0x202).screen = first.machine.screen := rfl
  have both : Performs m [d, d] second.machine :=
    .draw (poised ready) ran (.setUp kept (.draw (poised ready') ran' (.done _)))
  have sprite : m.memory.slice m.registers.i.toNat (BitVec.toNat (0xD015 : Word) % 16) = d.rows :=
    (poised ready).rows
  refine ⟨d, first.machine, second.machine, .draw (poised ready) ran (.done _), both, ?_, ?_, ?_, ?_⟩
  · exact flag.trans (if_pos lit)
  · rw [counted, sprite, fourteen]
  · exact flag'.trans (if_pos dark)
  · exact (cancel m _ _ _ _ both (.done m)).2 d (.refl _)

end Processor

end Chip8
