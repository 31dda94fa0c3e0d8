namespace DriveDepot

inductive Category
  | content
  | metadataDb
  | cleanup
  | action
  | transaction
  | temp
  | repositoryMarker
  | generic
  deriving DecidableEq, Repr

namespace Category

def all : List Category :=
  [.content, .metadataDb, .cleanup, .action, .transaction, .temp, .repositoryMarker, .generic]

def word : Category → String
  | .content => "content"
  | .metadataDb => "metadata_db"
  | .cleanup => "cleanup"
  | .action => "action"
  | .transaction => "transaction"
  | .temp => "temp"
  | .repositoryMarker => "repository_marker"
  | .generic => "generic"

def ofWord? (w : String) : Option Category := all.find? (·.word = w)

theorem mem_all (category : Category) : category ∈ all := by cases category <;> decide

theorem ofWord?_word (category : Category) : ofWord? category.word = some category := by
  cases category <;> decide

end Category

end DriveDepot
