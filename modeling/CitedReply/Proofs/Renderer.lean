import CitedReply.Frame.Basic

/-!
# CitedReply.Proofs.Renderer

The memory of a renderer cannot be seen: what it gives is what a fresh reading gives.
-/

namespace CitedReply
namespace Renderer

/-- What is remembered is the reading of the reply it is remembered for. -/
def Coherent (r : Renderer) : Prop := ∀ key reading, r.last = some (key, reading) →
  reading = Reading.ofText key

theorem coherent_ofOptions (options : Options) : (ofOptions options).Coherent := by
  intro key reading h
  cases h

theorem read_eq {r : Renderer} (h : r.Coherent) (raw : Text) :
    (r.read raw).1 = Reading.ofText raw := by
  simp only [read]
  split
  · rename_i key reading hl
    split
    · rename_i hk
      rw [← hk]
      exact h key reading hl
    · rfl
  · rfl

theorem coherent_read {r : Renderer} (h : r.Coherent) (raw : Text) : (r.read raw).2.Coherent := by
  have fresh : ∀ key reading, some (raw, Reading.ofText raw) = some (key, reading) →
      reading = Reading.ofText key := by
    intro key reading he
    cases he
    rfl
  simp only [read]
  split
  · split
    · exact h
    · exact fresh
  · exact fresh

@[simp] theorem options_read (r : Renderer) (raw : Text) : (r.read raw).2.options = r.options := by
  simp only [read]
  split
  · split <;> rfl
  · rfl

theorem render_eq {r : Renderer} (h : r.Coherent) (raw : Text) (streaming : Bool) :
    (r.render raw streaming).1 =
      Frame.ofReading r.options raw (Reading.ofText raw) streaming := by
  simp only [render, options_read, read_eq h]

theorem coherent_render {r : Renderer} (h : r.Coherent) (raw : Text) (streaming : Bool) :
    (r.render raw streaming).2.Coherent := coherent_read h raw

@[simp] theorem options_render (r : Renderer) (raw : Text) (streaming : Bool) :
    (r.render raw streaming).2.options = r.options := options_read r raw

/-! ## Many demands -/

/-- What a renderer can be asked for. -/
inductive Demand where
  | reading (raw : Text)
  | frame (raw : Text) (streaming : Bool)

inductive Answer where
  | reading (reading : Reading)
  | frame (frame : Frame)
  deriving DecidableEq

def answer (r : Renderer) : Demand → Answer × Renderer
  | .reading raw => (.reading (r.read raw).1, (r.read raw).2)
  | .frame raw streaming => (.frame (r.render raw streaming).1, (r.render raw streaming).2)

/-- The answers of one renderer to demands in a row, and the renderer after them. -/
def answers (r : Renderer) : List Demand → List Answer × Renderer
  | [] => ([], r)
  | d :: ds => ((r.answer d).1 :: ((r.answer d).2.answers ds).1, ((r.answer d).2.answers ds).2)

/-- The answer that is given without a memory. -/
def fresh (options : Options) : Demand → Answer
  | .reading raw => .reading (Reading.ofText raw)
  | .frame raw streaming => .frame (Frame.ofReading options raw (Reading.ofText raw) streaming)

theorem answer_eq {r : Renderer} (h : r.Coherent) (d : Demand) :
    (r.answer d).1 = fresh r.options d := by
  cases d with
  | reading raw => simp only [answer, fresh, read_eq h]
  | frame raw streaming => simp only [answer, fresh, render_eq h]

theorem coherent_answer {r : Renderer} (h : r.Coherent) (d : Demand) : (r.answer d).2.Coherent := by
  cases d with
  | reading raw => exact coherent_read h raw
  | frame raw streaming => exact coherent_render h raw streaming

@[simp] theorem options_answer (r : Renderer) (d : Demand) : (r.answer d).2.options = r.options := by
  cases d with
  | reading raw => exact options_read r raw
  | frame raw streaming => exact options_render r raw streaming

theorem answers_eq {r : Renderer} (h : r.Coherent) (ds : List Demand) :
    (r.answers ds).1 = ds.map (fresh r.options) := by
  induction ds generalizing r with
  | nil => rfl
  | cons d ds ih =>
    simp only [answers, List.map_cons, answer_eq h, ih (coherent_answer h d), options_answer]

theorem coherent_answers {r : Renderer} (h : r.Coherent) (ds : List Demand) :
    (r.answers ds).2.Coherent := by
  induction ds generalizing r with
  | nil => exact h
  | cons d ds ih => exact ih (coherent_answer h d)

@[simp] theorem options_answers (r : Renderer) (ds : List Demand) :
    (r.answers ds).2.options = r.options := by
  induction ds generalizing r with
  | nil => rfl
  | cons d ds ih => rw [answers, ih, options_answer]

theorem answers_concat (r : Renderer) (ds : List Demand) (d : Demand) :
    (r.answers (ds ++ [d])).2 = ((r.answers ds).2.answer d).2 := by
  induction ds generalizing r with
  | nil => rfl
  | cons x ds ih => exact ih (r.answer x).2

/-- A renderer that has met some demands. -/
def after (options : Options) (ds : List Demand) : Renderer := ((ofOptions options).answers ds).2

theorem render_after (options : Options) (ds : List Demand) (raw : Text) (streaming : Bool) :
    ((after options ds).render raw streaming).1 =
      Frame.ofReading options raw (Reading.ofText raw) streaming := by
  rw [after, render_eq (coherent_answers (coherent_ofOptions options) ds), options_answers]
  rfl

end Renderer
end CitedReply
