import CompoundFile.Directory.Entry
import CompoundFile.Marks

/-!
# Children of a storage

The children of a storage form a binary tree: the storage links to one of them, and each child
links to the siblings before it and to the siblings after it. `siblings` lists such a tree in
order, from the left to the right. It keeps the entries whose left side it is listing on a stack,
so the depth of the tree does not matter.

Every link must lead to a storage or a stream, and no entry may be reached twice in the whole
directory. The entries reached so far are marked; each one found takes room away from the marks
(`room_of_siblings`), so the listing ends.
-/

namespace CompoundFile.Directory

/-- The entry that a link below `parent` leads to. -/
def linked (es : Array Entry) (parent sid : UInt32) : Except Fault Entry :=
  if maxEntry < sid then .error (.reserved sid parent)
  else
    match es[sid.toNat]? with
    | none => .error (.outside sid parent es.size)
    | some e =>
      match e.type with
      | .storage | .stream => .ok e
      | .root => .error (.rootAsChild sid parent)
      | type => .error (.unusable sid parent type)

theorem lt_size_of_linked {es : Array Entry} {parent sid : UInt32} {e : Entry}
    (h : linked es parent sid = .ok e) : sid.toNat < es.size := by
  unfold linked at h
  split at h
  · cases h
  · split at h
    · cases h
    next hget => exact (Array.getElem?_eq_some_iff.1 hget).1

/-- List the siblings from the tree at `node`, then those entries on the stack, each followed by its
right side. A stack entry is a number and its right link; `found` is listed already. -/
def siblings (es : Array Entry) (parent node : UInt32) (stack : List (UInt32 × UInt32))
    (found : Array UInt32) (seen : Marks es.size) : Except Fault (List UInt32 × Marks es.size) :=
  if node = noEntry then
    match stack with
    | [] => .ok (found.toList, seen)
    | (sid, right) :: stack => siblings es parent right stack (found.push sid) seen
  else
    match _hlink : linked es parent node with
    | .error fault => .error fault
    | .ok e =>
      if _hseen : seen.contains node.toNat then .error (.repeated node)
      else siblings es parent e.left ((node, e.right) :: stack) found (seen.mark node.toNat)
termination_by 2 * seen.room + stack.length
decreasing_by
  · simp
  · have := Marks.room_mark_lt (lt_size_of_linked _hlink) (by simpa using _hseen)
    simp only [List.length_cons]
    omega

theorem room_of_siblings {es : Array Entry} {parent node : UInt32}
    {stack : List (UInt32 × UInt32)} {found : Array UInt32} {seen seen' : Marks es.size}
    {l : List UInt32} (h : siblings es parent node stack found seen = .ok (l, seen')) :
    seen'.room + l.length ≤ seen.room + stack.length + found.size := by
  fun_induction siblings es parent node stack found seen with
  | case1 => cases h; simp
  | case2 found seen sid right stack ih =>
    have := ih h
    simp only [Array.size_push, List.length_cons] at this ⊢
    omega
  | case3 => cases h
  | case4 => cases h
  | case5 node stack found seen _ e hlink hseen ih =>
    have := ih h
    have := Marks.room_mark_lt (lt_size_of_linked hlink) (by simpa using hseen)
    simp only [List.length_cons] at *
    omega

end CompoundFile.Directory
