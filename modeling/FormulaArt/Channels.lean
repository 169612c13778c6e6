import FormulaArt.Expr.Builder

/-!
# The three channels

Whatever exists once for red, once for green and once for blue: the formulas of a picture, or the
tasks that evaluate them.

## Main definitions

* `Channel` — the three colours
* `Channels` — a value per channel
* `Channels.build` — the three random formulas of a picture, red first
-/

namespace FormulaArt

/-- A colour of a picture. -/
inductive Channel where
  | red
  | green
  | blue
deriving Repr, DecidableEq

/-- A value for each channel. -/
structure Channels (β : Type) where
  red : β
  green : β
  blue : β
deriving Repr, DecidableEq

namespace Channels

variable {β γ : Type}

/-- The value for a channel. -/
def get (t : Channels β) : Channel → β
  | .red => t.red
  | .green => t.green
  | .blue => t.blue

/-- Change the value for one channel. -/
@[inline] def modify (t : Channels β) (c : Channel) (f : β → β) : Channels β :=
  match c, t with
  | .red, ⟨red, green, blue⟩ => ⟨f red, green, blue⟩
  | .green, ⟨red, green, blue⟩ => ⟨red, f green, blue⟩
  | .blue, ⟨red, green, blue⟩ => ⟨red, green, f blue⟩

/-- Change the values for all channels. -/
@[inline] def map (f : β → γ) (t : Channels β) : Channels γ :=
  ⟨f t.red, f t.green, f t.blue⟩

/-- Build the formulas of the three channels, red, then green, then blue, from one range of depths
and one source. -/
def build {α σ : Type} [RandomSource σ] (range : DepthRange) :
    ExceptT (Fault α) (StateM σ) (Channels Expr) := do
  let red ← Expr.build range
  let green ← Expr.build range
  let blue ← Expr.build range
  return { red, green, blue }

end Channels

end FormulaArt
