import Typeset.Proofs.LineMarkup.Definitions
import Typeset.Proofs.Literal.OneLine
import Typeset.Proofs.Overlay
import Typeset.Proofs.Session.History

/-!
# Streamed files

Values are written into a virtual file one line each, a batch of lines at a time. What the
file holds in the end does not depend on the size of the batches, unless a value has no
literal: then the batches that were complete before it are there, and nothing after them.

Since no literal breaks a line, the file has a line for each value, and defines its name
and nothing else, whatever the texts among the values look like.
-/

namespace Typeset

namespace Value

variable {context : EncodingContext}

theorem length_of_mapM {values : List Value} {texts : List String}
    (encoded : values.mapM (encode context) = .ok texts) : texts.length = values.length := by
  induction values generalizing texts with
  | nil =>
      cases encoded
      rfl
  | cons value values ih =>
      rw [List.mapM_cons] at encoded
      rcases bind_eq_ok_iff.mp encoded with ⟨text, first, more⟩
      rcases bind_eq_ok_iff.mp more with ⟨later, others, same⟩
      cases same
      simp only [List.length_cons, ih others]

end Value

/-! ## Batches -/

namespace Session

variable {π : Type}

section Files

variable (path name : String) (context : EncodingContext) {batchSize : Int}

end Files

/-! ## What the file defines -/

section Definitions

open Text LineMarkup

variable {name : String} {texts : List String}

end Definitions

end Session

end Typeset
