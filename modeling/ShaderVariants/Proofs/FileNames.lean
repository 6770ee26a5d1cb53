import ShaderVariants.Path

/-!
# Last names of written paths

A path is written and read again where a location keeps its file.  The last name comes back whatever
stands in front of it, as long as it is a name that reading does not take apart or leave out.
-/

namespace ShaderVariants.Path

/-- A text that is read as one name. -/
structure IsPlain (name : String) : Prop where
  nonempty : name ≠ ""
  notDot : name ≠ "."
  noSlash : '/' ∉ name.toList

theorem pieces_of_not_mem {cs : List Char} (noSlash : '/' ∉ cs) (piece : List Char) :
    pieces piece cs = [piece.reverse ++ cs] := by
  induction cs generalizing piece with
  | nil => simp [pieces]
  | cons c cs ih =>
      obtain ⟨here, later⟩ := not_or.mp fun either => noSlash (List.mem_cons.mpr either)
      rw [pieces, if_neg (Ne.symm here), ih later, List.reverse_cons, List.append_assoc,
        List.singleton_append]

theorem pieces_append_slash (front rest piece : List Char) :
    pieces piece (front ++ '/' :: rest) = pieces piece front ++ pieces [] rest := by
  induction front generalizing piece with
  | nil => simp [pieces]
  | cons c front ih =>
      by_cases slash : c = '/'
      · rw [List.cons_append, pieces, pieces, if_pos slash, if_pos slash, ih, List.cons_append]
      · rw [List.cons_append, pieces, pieces, if_neg slash, if_neg slash, ih]

variable {name : String}

theorem ofString_plain (plain : IsPlain name) : ofString name = ⟨.relative, [name]⟩ := by
  have anchor : anchorOf name.toList = .relative := by
    unfold anchorOf
    split
    all_goals first | rfl | exact (plain.noSlash (by simp_all)).elim
  unfold ofString
  rw [anchor, pieces_of_not_mem plain.noSlash]
  simp [plain.nonempty, plain.notDot]

theorem fileName_ofString_append (plain : IsPlain name) (front : String) :
    (ofString (front ++ "/" ++ name)).fileName = name := by
  have split : (front ++ "/" ++ name).toList = front.toList ++ '/' :: name.toList := by simp
  unfold ofString fileName
  rw [split, pieces_append_slash, pieces_of_not_mem plain.noSlash]
  simp [plain.nonempty, plain.notDot]

/-- A file below any directory has the last name that it was given. -/
theorem fileName_ofString_toString (plain : IsPlain name) (directory : Path) :
    (ofString (directory ++ ofString name).toString).fileName = name := by
  have joined : directory ++ ofString name =
      { directory with names := directory.names ++ [name] } := by
    rw [ofString_plain plain]
    rfl
  have written : (directory ++ ofString name).toString =
      directory.anchor.text ++ String.intercalate "/" (directory.names ++ [name]) := by
    simp [joined, toString]
  rw [written]
  by_cases above : directory.names = []
  · rw [above, List.nil_append, String.intercalate_singleton]
    cases directory.anchor with
    | relative =>
        have alone : Anchor.relative.text ++ name = name := String.empty_append
        rw [alone, ofString_plain plain]
        rfl
    | root => exact fileName_ofString_append plain ""
    | doubleRoot => exact fileName_ofString_append plain "/"
  · rw [String.intercalate_append_of_ne_nil above (by simp), String.intercalate_singleton,
      ← String.append_assoc, ← String.append_assoc]
    exact fileName_ofString_append plain _

end ShaderVariants.Path
