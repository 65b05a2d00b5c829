/-! Sentence frames and the category tags of verbs. A frame is the sequence of slots around a verb, such
as `NP V NP`. The catalogue lists the slot sequences that have a category, each with the pieces of its
tags: a verb with neither particle nor preposition gets the base tag, and otherwise the particle and the
preposition are put in between the head and the tail. -/
namespace Wordbook

/-- A frame as it is written down: one descriptor for each slot. -/
structure Frame where
  primary : List String
deriving DecidableEq, Repr

/-- The slot that a descriptor names. What follows the first dot is a remark, and a dative noun phrase
is a noun phrase. -/
def slotOf (descriptor : String) : String :=
  let slot := String.ofList (descriptor.toList.takeWhile (· != '.'))
  if slot = "NP-Dative" then "NP" else slot

/-- The slot sequence of a frame. -/
def Frame.slots (frame : Frame) : List String := frame.primary.map slotOf

/-- A slot sequence of the catalogue, and the pieces of its tags. -/
structure FramePattern where
  slots : List String
  head : String
  tail : String
  base : String
  /-- A preposition needs a complement, which a bare subject and verb do not offer. -/
  takesPreposition : Bool := true
deriving DecidableEq, Repr

namespace FramePattern

/-- A pattern without a complement. -/
def intransitive (slots : List String) : FramePattern where
  slots := slots
  head := "vb"
  tail := ""
  base := "vb"
  takesPreposition := false

/-- The frames that have a category. -/
def catalogue : List FramePattern :=
  [intransitive ["NP", "V"],
   intransitive ["It", "V"],
   { slots := ["NP", "V", "ADJ"], head := "vb", tail := "predcomp", base := "vb_predcomp" },
   { slots := ["NP", "V", "S_INF"], head := "vb", tail := "to_inf_cl", base := "vb_to_inf_cl" },
   { slots := ["NP", "V", "S_BARE_INF"], head := "vb", tail := "bare_inf_cl", base := "vb_bare_inf_cl" },
   { slots := ["NP", "V", "S_ING"], head := "vb", tail := "vbg_cl", base := "vb_vbg_cl" },
   { slots := ["NP", "V", "VP_VBN"], head := "vb", tail := "vbn_cl", base := "vb_vbn_cl" },
   { slots := ["NP", "V", "PASSIVE_CL"], head := "vb", tail := "passive_cl", base := "vb_passive_cl" },
   { slots := ["NP", "V", "S"], head := "vb", tail := "bare_declarative_cl",
     base := "vb_bare_declarative_cl" },
   { slots := ["NP", "V", "that", "S"], head := "vb", tail := "that_declarative_cl",
     base := "vb_that_declarative_cl" },
   { slots := ["NP", "V", "what", "S"], head := "vb", tail := "interrogative_cl",
     base := "vb_interrogative_cl" },
   { slots := ["NP", "V", "how", "S"], head := "vb", tail := "exclamative_cl",
     base := "vb_exclamative_cl" },
   { slots := ["NP", "V", "S-Quote"], head := "vb", tail := "quot_cl", base := "vb_quot_cl" },
   { slots := ["NP", "V", "NP"], head := "vb", tail := "o", base := "vb_o" },
   { slots := ["It", "V", "NP"], head := "vb", tail := "o", base := "vb_o" },
   { slots := ["NP", "V", "NP", "ADJ"], head := "vb_o", tail := "predcomp", base := "vb_o_predcomp" },
   { slots := ["NP", "V", "NP", "S_INF"], head := "vb_intnp", tail := "to_inf_cl",
     base := "vb_intnp_to_inf_cl" },
   { slots := ["NP", "V", "NP", "S_BARE_INF"], head := "vb_intnp", tail := "bare_inf_cl",
     base := "vb_intnp_bare_inf_cl" },
   { slots := ["NP", "V", "NP", "S_ING"], head := "vb_io", tail := "vbg_cl", base := "vb_io_vbg_cl" },
   { slots := ["NP", "V", "NP", "VP_VBN"], head := "vb_io", tail := "vbn_cl", base := "vb_io_vbn_cl" },
   { slots := ["NP", "V", "NP", "S"], head := "vb_io", tail := "bare_declarative_cl",
     base := "vb_io_bare_declarative_cl" },
   { slots := ["NP", "V", "NP", "that", "S"], head := "vb_io", tail := "that_declarative_cl",
     base := "vb_io_that_declarative_cl" },
   { slots := ["NP", "V", "NP", "what", "S"], head := "vb_io", tail := "interrogative_cl",
     base := "vb_io_interrogative_cl" },
   { slots := ["NP", "V", "NP", "how", "S"], head := "vb_io", tail := "exclamative_cl",
     base := "vb_io_exclamative_cl" },
   { slots := ["NP", "V", "NP", "S-Quote"], head := "vb_io", tail := "quot_cl", base := "vb_io_quot_cl" },
   { slots := ["NP", "V", "NP", "NP"], head := "vb_o", tail := "o", base := "vb_io_do" }]

/-- The tag with a particle, a preposition or both put in. -/
def insertedTag (pattern : FramePattern) (particle preposition : Option String) : String :=
  let withParticle := match particle with
    | some particle => pattern.head ++ "_prt_" ++ particle
    | none => pattern.head
  let withPreposition := match preposition with
    | some preposition => withParticle ++ "_prp_" ++ preposition
    | none => withParticle
  if pattern.tail = "" then withPreposition else withPreposition ++ "_" ++ pattern.tail

/-- The tag of a verb in this frame, or none where its preposition would dangle. -/
def tag? (pattern : FramePattern) (particle preposition : Option String) : Option String :=
  if preposition.isSome && !pattern.takesPreposition then none
  else if particle.isNone && preposition.isNone then some pattern.base
  else some (pattern.insertedTag particle preposition)

end FramePattern

/-- The category tag of a verb in a frame, given the slots of the frame and what goes with the verb. -/
def frameTag? (slots : List String) (particle preposition : Option String) : Option String :=
  (FramePattern.catalogue.find? (·.slots = slots)).bind (·.tag? particle preposition)

end Wordbook
