/-
Documents: the persisted form of filters and of what they are made of. A variant is named by a text,
or by a record of one field when it carries something; a structure is a record of its fields.
-/

namespace InstanceFilter

mutual

inductive Document where
  | null
  | boolean (b : Bool)
  | integer (n : Int)
  /-- A number with a fraction or an exponent, or too great to be held as a whole number. -/
  | decimal (x : Float)
  | text (s : String)
  | list (items : List Document)
  | record (fields : List Field)

structure Field where
  name : String
  value : Document

end

deriving instance Inhabited for Document, Field

namespace Document

/-- A variant that carries a document. -/
def variant (tag : String) (content : Document) : Document := .record [⟨tag, content⟩]

/-- A list of documents made from a list. -/
def ofList {α : Type} (items : List α) (document : α → Document) : Document :=
  .list (items.map document)

/-- Null for what is missing. -/
def ofOption {α : Type} (item : Option α) (document : α → Document) : Document :=
  match item with
  | some a => document a
  | none => .null

end Document

end InstanceFilter
