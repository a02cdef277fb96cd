import Crynet.Skynet.SocketServer
import Mathlib.Data.List.Basic
import Mathlib.Tactic.Ring

/-!
# Writing a list of buffers

What `send_list_tcp` does whatever the kernel answers: it finishes some buffers
from the front, may leave one in part, and writes exactly the bytes that this
accounts for.
-/

namespace Crynet.Skynet

/-- Which package came how, oldest first. -/
def entries (list : List WriteBuffer) : List (Route × Package) :=
  list.map fun wb => (wb.route, wb.package)

@[simp] theorem entries_nil : entries [] = [] := rfl

@[simp] theorem entries_cons (wb : WriteBuffer) (list : List WriteBuffer) :
    entries (wb :: list) = (wb.route, wb.package) :: entries list := rfl

@[simp] theorem entries_append (first second : List WriteBuffer) :
    entries (first ++ second) = entries first ++ entries second :=
  List.map_append

/-- The bytes of whole packages. -/
def bytesOf (finished : List (Route × Package)) : List UInt8 :=
  finished.flatMap fun entry => entry.2.data

@[simp] theorem bytesOf_nil : bytesOf [] = [] := rfl

@[simp] theorem bytesOf_append (first second : List (Route × Package)) :
    bytesOf (first ++ second) = bytesOf first ++ bytesOf second :=
  List.flatMap_append

@[simp] theorem bytesOf_singleton (entry : Route × Package) :
    bytesOf [entry] = entry.2.data :=
  List.flatMap_singleton _ _

/-- How many bytes are left to write. -/
def unwritten (list : List WriteBuffer) : Int :=
  (list.map fun wb => (wb.sz : Int)).sum

@[simp] theorem unwritten_nil : unwritten [] = 0 := rfl

@[simp] theorem unwritten_cons (wb : WriteBuffer) (list : List WriteBuffer) :
    unwritten (wb :: list) = wb.sz + unwritten list :=
  List.sum_cons

@[simp] theorem unwritten_append (first second : List WriteBuffer) :
    unwritten (first ++ second) = unwritten first + unwritten second := by
  simp [unwritten]

/-- Nothing has been written of any of the buffers. -/
def Unsent (list : List WriteBuffer) : Prop :=
  ∀ wb ∈ list, wb.ptr = 0

theorem Unsent.tail {list : List WriteBuffer} (unsent : Unsent list) :
    Unsent list.tail :=
  fun wb member => unsent wb (List.mem_of_mem_tail member)

theorem headSent_of_unsent {list : List WriteBuffer} (unsent : Unsent list) :
    headSent list = [] := by
  cases list with
  | nil => rfl
  | cons wb rest =>
      have first := unsent wb List.mem_cons_self
      simp [headSent, WriteBuffer.sent, first]

/-- The first package is a user object. -/
def objectFirst : List WriteBuffer → Bool
  | [] => false
  | wb :: _ => wb.package.object

theorem listUncomplete_eq_objectFirst {list : List WriteBuffer}
    (unsent : Unsent list) :
    Connection.listUncomplete list = objectFirst list := by
  cases list with
  | nil => rfl
  | cons wb rest =>
      have first := unsent wb List.mem_cons_self
      simp [Connection.listUncomplete, objectFirst, first]

theorem unsent_of_complete {list : List WriteBuffer} (tail : Unsent list.tail)
    (complete : Connection.listUncomplete list = false) : Unsent list := by
  cases list with
  | nil => exact fun wb member => absurd member List.not_mem_nil
  | cons wb rest =>
      have first : wb.ptr = 0 := by
        simp only [Connection.listUncomplete, Bool.or_eq_false_iff,
          decide_eq_false_iff_not, Decidable.not_not] at complete
        exact complete.1
      intro other member
      rcases List.mem_cons.mp member with rfl | later
      · exact first
      · exact tail other later

/-- What the writes of a list change, and how it adds up. -/
structure SendsList (connection : Connection) (list : List WriteBuffer)
    (later : Connection) (left : List WriteBuffer) : Prop where
  same : later = { connection with
    output := later.output, wbSize := later.wbSize, finished := later.finished }
  finished : ∃ done, later.finished = connection.finished ++ done ∧
    entries list = done ++ entries left ∧
    ∀ before, connection.output = before ++ headSent list →
      later.output = before ++ bytesOf done ++ headSent left
  size : later.wbSize - unwritten left = connection.wbSize - unwritten list
  tail : Unsent left.tail

theorem SendsList.stop (connection : Connection) {list : List WriteBuffer}
    (tail : Unsent list.tail) :
    SendsList connection list connection list := by
  refine ⟨rfl, ⟨[], (List.append_nil _).symm, rfl, ?_⟩, rfl, tail⟩
  intro before output
  rw [output, bytesOf_nil, List.append_nil]

private theorem WriteBuffer.sent_append (wb : WriteBuffer) (count : Nat) :
    wb.sent ++ (wb.package.data.drop wb.ptr).take count =
      wb.package.data.take (wb.ptr + count) :=
  List.take_add.symm

theorem WriteBuffer.sent_advance (wb : WriteBuffer) (count : Nat) :
    (wb.advance count).sent = wb.package.data.take (wb.ptr + count) := by
  simp [WriteBuffer.sent, WriteBuffer.advance, List.take_eq_take_iff]

private theorem WriteBuffer.sz_advance (wb : WriteBuffer) {count : Nat}
    (fits : count ≤ wb.sz) : ((wb.advance count).sz : Int) = wb.sz - count := by
  have within := wb.within
  simp only [WriteBuffer.sz] at fits
  simp only [WriteBuffer.sz, WriteBuffer.advance]
  omega

private theorem WriteBuffer.take_sz (wb : WriteBuffer) :
    wb.package.data.take (wb.ptr + wb.sz) = wb.package.data := by
  apply List.take_of_length_le
  have within := wb.within
  simp only [WriteBuffer.sz]
  omega

/-- A buffer is left in part. -/
theorem SendsList.part (connection : Connection) {wb : WriteBuffer}
    {rest : List WriteBuffer} {count : Nat} (fits : count ≤ wb.sz)
    (tail : Unsent rest) :
    SendsList connection (wb :: rest) (connection.wrote wb count)
      (wb.advance count :: rest) := by
  refine ⟨rfl, ⟨[], (List.append_nil _).symm, rfl, ?_⟩, ?_, tail⟩
  · intro before output
    have written := wb.sent_append count
    simp only [Connection.wrote, headSent, bytesOf_nil, List.append_nil,
      WriteBuffer.sent_advance] at output ⊢
    rw [output, List.append_assoc, written]
  · have less := wb.sz_advance fits
    simp only [Connection.wrote, unwritten_cons, less]
    omega

/-- A buffer is written to its end, and the writes go on. -/
theorem SendsList.next {connection later : Connection} {wb : WriteBuffer}
    {rest left : List WriteBuffer} (unsent : Unsent rest)
    (onward : SendsList ((connection.wrote wb wb.sz).finish wb) rest later
      left) : SendsList connection (wb :: rest) later left := by
  obtain ⟨same, ⟨done, finished, split, output⟩, size, tail⟩ := onward
  refine ⟨same, ⟨(wb.route, wb.package) :: done, ?_, ?_, ?_⟩, ?_, tail⟩
  · rw [finished]
    simp [Connection.finish, Connection.wrote]
  · rw [entries_cons, split]
    rfl
  · intro before start
    have whole := wb.sent_append wb.sz
    have ends := output (before ++ wb.package.data) (by
      simp only [headSent] at start
      simp only [Connection.finish, Connection.wrote, start,
        headSent_of_unsent unsent, List.append_nil, List.append_assoc]
      rw [whole, wb.take_sz])
    rw [ends]
    simp [bytesOf]
  · simp only [Connection.finish, Connection.wrote] at size
    rw [unwritten_cons]
    omega

/-- `send_list_tcp`, for any answers of the kernel. -/
theorem sendListTcp_sends (kernel : List WriteResult) (connection : Connection)
    (list : List WriteBuffer) (tail : Unsent list.tail) :
    SendsList connection list (connection.sendListTcp list kernel).2.2.1
      (connection.sendListTcp list kernel).2.1 := by
  induction kernel generalizing connection list with
  | nil =>
      cases list with
      | nil => exact SendsList.stop connection tail
      | cons wb rest => exact SendsList.stop connection tail
  | cons result kernel induction =>
      cases list with
      | nil => exact SendsList.stop connection tail
      | cons wb rest =>
          cases result with
          | interrupted => exact induction connection (wb :: rest) tail
          | again => exact SendsList.stop connection tail
          | failed => exact SendsList.stop connection tail
          | wrote count =>
              simp only [Connection.sendListTcp]
              split
              · exact SendsList.part connection (Nat.min_le_right _ _) tail
              · rename_i whole
                have all : min count wb.sz = wb.sz := Decidable.not_not.mp whole
                rw [all]
                exact SendsList.next tail
                  (induction _ rest (Unsent.tail tail))

/-- An error comes before any byte of the buffer it is found at. -/
theorem sendListTcp_unsent (kernel : List WriteResult)
    (connection : Connection) (list : List WriteBuffer) (unsent : Unsent list)
    (failed : (connection.sendListTcp list kernel).1 = false) :
    Unsent (connection.sendListTcp list kernel).2.1 := by
  induction kernel generalizing connection list with
  | nil =>
      cases list with
      | nil => exact unsent
      | cons wb rest => exact unsent
  | cons result kernel induction =>
      cases list with
      | nil => exact unsent
      | cons wb rest =>
          cases result with
          | interrupted => exact induction connection (wb :: rest) unsent failed
          | again => exact unsent
          | failed => exact unsent
          | wrote count =>
              simp only [Connection.sendListTcp] at failed ⊢
              split at failed
              · simp at failed
              · rename_i whole
                rw [if_neg whole]
                exact induction _ rest unsent.tail failed

end Crynet.Skynet
