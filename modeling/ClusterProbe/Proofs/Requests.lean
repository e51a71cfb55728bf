/-
  ClusterProbe.Proofs.Requests — what requests for one object look like.

  The address of an object is its collection's path with its name behind it. A name may
  hold signs that end the path and begin a query or a fragment, so that the path is what
  stands before them (`pathOf`); the question mark that a deletion puts behind the
  address does not change it (`getRequest_ok`, `deleteRequest_ok`). What cannot be
  addressed is not sent (`getRequest_error`).
-/

import Mathlib.Logic.Basic
import ClusterProbe.Resource.Cluster
import ClusterProbe.Session.Collection

namespace ClusterProbe

namespace Http.Target

/-- The path of an address: all before its query and its fragment. -/
def pathOf (s : String) : String := String.ofList ((beforeFragment s.toList).takeWhile (· != '?'))

theorem path_of_parse {s : String} {t : Target} (h : parse s = .ok t) : t.path = pathOf s := by
  unfold parse at h
  split at h
  · cases h
  · simp only [ofChars, Bool.and_eq_true, ite_eq_iff, reduceCtorEq, and_false, or_false, Except.ok.injEq] at h
    rw [← h.2, pathOf]

/-- What stands behind a question mark is no part of the path. -/
theorem pathOf_append_query (s query : String) : pathOf (s ++ "?" ++ query) = pathOf s := by
  have hcs : ∀ cs : List Char, (beforeFragment (cs ++ '?' :: query.toList)).takeWhile (· != '?') =
      (beforeFragment cs).takeWhile (· != '?') := by
    intro cs
    unfold beforeFragment
    induction cs with
    | nil => simp
    | cons c cs ih =>
      rw [List.cons_append, List.takeWhile_cons, List.takeWhile_cons]
      split
      · rw [List.takeWhile_cons, List.takeWhile_cons, ih]
      · rfl
  simp [pathOf, hcs]

/-- A question mark behind an address changes nothing but the query. -/
theorem pathOf_concat (s : String) : pathOf (s ++ "?") = pathOf s := by
  simpa using pathOf_append_query s ""

/-- An address that holds no sign which ends its path is a path. -/
theorem path_only_of_parse {s : String} {t : Target} (hmark : '?' ∉ s.toList) (hhash : '#' ∉ s.toList)
    (h : parse s = .ok t) : t = ⟨s, none⟩ := by
  have hwhole : beforeFragment s.toList = s.toList := by
    simpa [beforeFragment] using Text.takeWhile_append hhash []
  have hpath : s.toList.takeWhile (· != '?') = s.toList := by simpa using Text.takeWhile_append hmark []
  have hnone : s.toList.dropWhile (· != '?') = [] := by simpa using Text.dropWhile_append hmark []
  unfold parse at h
  split at h
  · cases h
  · rw [ofChars, hwhole, hpath, hnone] at h
    simp only [Bool.and_eq_true, ite_eq_iff, reduceCtorEq, and_false, or_false, Except.ok.injEq] at h
    simp [← h.2]

/-- An address is split at its question mark, if there is one only and no fragment. -/
theorem parts_of_parse {path query : String} {t : Target} (hmark : '?' ∉ path.toList) (hpath : '#' ∉ path.toList)
    (hquery : '#' ∉ query.toList) (h : parse (path ++ "?" ++ query) = .ok t) : t = ⟨path, some query⟩ := by
  have hwhole : beforeFragment (path.toList ++ '?' :: query.toList) = path.toList ++ '?' :: query.toList := by
    have hno : '#' ∉ path.toList ++ '?' :: query.toList := by simp [hpath, hquery]
    simpa [beforeFragment] using Text.takeWhile_append hno []
  have htext : (path ++ "?" ++ query).toList = path.toList ++ '?' :: query.toList := by simp
  unfold parse at h
  split at h
  · cases h
  · rw [htext, ofChars, hwhole, Text.takeWhile_append hmark, Text.dropWhile_append hmark] at h
    simp only [Bool.and_eq_true, ite_eq_iff, reduceCtorEq, and_false, or_false, Except.ok.injEq] at h
    simp [← h.2]

end Http.Target

namespace Collection

variable {K : Type} [Resource K]

/-- Where the object of a name is kept. -/
def objectPath (c : Collection K) (name : String) : String := Http.Target.pathOf (c.path ++ "/" ++ name)

/-- A request that was built is to the target that its address was read as. -/
theorem build_target {method : Method} {target : String} {body : Option Json} {q : Request}
    (h : build method target body = .ok q) : ∃ t, Http.Target.parse target = .ok t ∧
      q = ⟨method, t.path, (t.query.map Http.Form.decode).getD [], body⟩ := by
  unfold build at h
  split at h
  · cases h
  · rename_i t ht
    cases h
    exact ⟨t, ht, rfl⟩

theorem build_ok {method : Method} {target : String} {body : Option Json} {q : Request}
    (h : build method target body = .ok q) : q.method = method ∧ q.path = Http.Target.pathOf target := by
  obtain ⟨t, ht, rfl⟩ := build_target h
  exact ⟨rfl, Http.Target.path_of_parse ht⟩

theorem build_error {method : Method} {target : String} {body : Option Json} {e : RequestError}
    (h : build method target body = .error e) : ∃ why, e = .unsendable why := by
  unfold build at h
  split at h
  · cases h
    exact ⟨_, rfl⟩
  · cases h

variable {c : Collection K} {name : String} {q : Request} {e : RequestError}

theorem getRequest_ok (h : c.getRequest name = .ok q) : q.method = .get ∧ q.path = c.objectPath name := by
  unfold getRequest at h
  split at h
  · cases h
  · exact build_ok h

/-- The whole address is the path, if nothing ends it before. -/
theorem getRequest_whole (h : c.getRequest name = .ok q) (hmark : '?' ∉ (c.path ++ "/" ++ name).toList)
    (hhash : '#' ∉ (c.path ++ "/" ++ name).toList) : q = ⟨.get, c.path ++ "/" ++ name, [], none⟩ := by
  unfold getRequest at h
  split at h
  · cases h
  · obtain ⟨t, ht, rfl⟩ := build_target h
    rw [Http.Target.path_only_of_parse hmark hhash ht]
    rfl

theorem getRequest_error (h : c.getRequest name = .error e) : ∃ why, e = .unsendable why := by
  unfold getRequest at h
  split at h
  · cases h
    exact ⟨_, rfl⟩
  · exact build_error h

theorem deleteRequest_ok (h : c.deleteRequest name = .ok q) : q.method = .delete ∧ q.path = c.objectPath name := by
  unfold deleteRequest at h
  split at h
  · cases h
  · obtain ⟨hm, hp⟩ := build_ok h
    exact ⟨hm, by rw [hp, Http.Target.pathOf_concat, objectPath]⟩

theorem deleteRequest_error (h : c.deleteRequest name = .error e) : ∃ why, e = .unsendable why := by
  unfold deleteRequest at h
  split at h
  · cases h
    exact ⟨_, rfl⟩
  · exact build_error h

/-! ## Fetching -/

theorem fetch_map_of_sendable {β : Type} (hq : c.getRequest name = .ok q) (f : Except RequestError K → β) :
    (c.fetch name).map f = .request q fun r => .done (f (r.read Resource.ofJson?)) := by
  simp [Collection.fetch, hq, Attempt.map]

theorem fetch_map_of_unsendable {β : Type} (he : c.getRequest name = .error e) (f : Except RequestError K → β) :
    (c.fetch name).map f = .done (f (.error e)) := by
  simp [Collection.fetch, he, Attempt.map]

end Collection

/-! ## A request -/

/-- Asks for the configuration map `cm` of the namespace `ns`. -/
def mapRequest : Request := ⟨.get, "/api/v1/namespaces/ns/configmaps/cm", [], none⟩

theorem getRequest_map [ApiTypes] :
    (Collection.within "ns" : Collection ConfigMap).getRequest "cm" = .ok mapRequest := by
  have haddress : ConfigMap.kind.collection (some "ns") ++ "/" ++ "cm" = "/api/v1/namespaces/ns/configmaps/cm" := by
    decide +kernel
  have htarget : Http.Target.parse "/api/v1/namespaces/ns/configmaps/cm" =
      .ok ⟨"/api/v1/namespaces/ns/configmaps/cm", none⟩ := by
    rw [Http.Target.parse, if_neg (by decide +kernel), Http.Target.ofChars]
    rfl
  have hpath : (Collection.within "ns" : Collection ConfigMap).path = ConfigMap.kind.collection (some "ns") := rfl
  rw [Collection.getRequest, if_neg (by decide), Collection.build, hpath, haddress, htarget]
  rfl

end ClusterProbe
