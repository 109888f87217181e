import VisitorNodes.Target
import VisitorNodes.Proofs.FileTree.Place
import VisitorNodes.Proofs.Text.Letter
/-!
# Names of files

A category whose name holds no slash has a file of its own name in the directory that it is written
to (`isEntry_fileName`): putting the name into words adds no slash, and the extension keeps the name
from being one of the two that are not entries. Only C# tells all categories apart by their files.
-/

namespace VisitorNodes

namespace Text

theorem slash_notMem_snakeCase {cs : List Char} (h : '/' ∉ cs) : '/' ∉ snakeCase cs := by
  intro hslash
  rcases mem_of_mem_intercalate hslash with ⟨word, hword, hslash⟩ | hslash
  · obtain ⟨w, hw, rfl⟩ := List.mem_map.mp hword
    exact h (mem_of_mem_words hw (mem_of_mem_lowerText (by decide) hslash))
  · exact absurd hslash (by decide)

end Text

namespace Target

variable {target : Target} {category : String}

theorem slash_notMem_fileName (h : '/' ∉ category.toList) :
    '/' ∉ (target.fileName category).toList := by
  unfold fileName
  cases target with
  | csharp => simp [extension, h]
  | rust => simp [extension, Text.slash_notMem_snakeCase h]

/-- **The file of a category is an entry of its directory.** -/
theorem isEntry_fileName (h : '/' ∉ category.toList) :
    Path.IsEntry (target.fileName category) := by
  have hlong : 3 ≤ (target.fileName category).toList.length := by
    unfold fileName
    cases target <;> simp [extension]
  refine ⟨?_, ?_, ?_, slash_notMem_fileName h⟩ <;>
  · intro e
    rw [e] at hlong
    exact absurd hlong (by decide)

theorem fileName_csharp_inj {a b : String} :
    fileName .csharp a = fileName .csharp b ↔ a = b := by
  unfold fileName
  rw [String.append_left_inj, String.append_left_inj]

end Target

end VisitorNodes
