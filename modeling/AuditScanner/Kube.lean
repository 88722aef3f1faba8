import Mathlib.Data.List.AList
import AuditScanner.Go

/-!
# The cluster's objects, as the scanner sees them

Resources, policies and the policy catalog, the admission reviews sent to policy servers,
and the policy reports the scanner builds.  Only the fields that a modelled function reads
or writes are kept.

`report.NewPolicyReport`, `report.AddResultToPolicyReport` (and their cluster-wide
versions) and `newAdmissionReview` are called by the scanner but are not among the
sources; they are modelled from the spec, and say so.
-/

namespace AuditScanner

/-- `schema.GroupVersionResource`. -/
structure Gvr where
  group : String
  version : String
  resource : String
deriving DecidableEq, Repr

/-- One requirement of a label selector: a key, an operator and its values. -/
structure LabelSelectorRequirement where
  key : String
  operator : String
  values : List String
deriving DecidableEq, Repr

/-- `metav1.LabelSelector`. -/
structure LabelSelector where
  matchLabels : List (String × String)
  matchExpressions : List LabelSelectorRequirement
deriving DecidableEq, Repr

/-- `policiesv1.Policy`: the scanner reads a policy's name and its object selector. -/
structure Policy where
  name : String
  objectSelector : Option LabelSelector
deriving DecidableEq, Repr

/-- `policies.Policy`: a policy with the URL of the policy server that evaluates it. -/
structure ServedPolicy where
  policy : Policy
  policyServer : String
deriving DecidableEq, Repr

/-- `policies.Policies`: what the policy catalog returns, the policies grouped by the
resource type they are bound to (a Go map), and two counts that are only logged. -/
structure Policies where
  policiesByGVR : AList fun _ : Gvr => List ServedPolicy
  policyNum : Nat
  skippedNum : Nat

/-- `unstructured.Unstructured`: a resource of the cluster. -/
structure Unstructured where
  uid : String
  name : String
  /-- The object's namespace (`GetNamespace()`); `namespace` is a keyword of Lean. -/
  ns : String
  labels : List (String × String)
deriving DecidableEq, Repr

/-- A `runtime.Object` handed out by a pager: an `*unstructured.Unstructured`, or an
object of another Go type. -/
inductive Object where
  | unstructured (u : Unstructured)
  | other (goType : String)
deriving DecidableEq, Repr

/-- The type assertion `obj.(*unstructured.Unstructured)`. -/
def Object.asUnstructured : Object → Option Unstructured
  | .unstructured u => some u
  | .other _ => none

/-- What `pager.EachListItem` walks through: the objects the pager yields, in order, and
the error that ends the listing, if listing a page fails. -/
structure Pager where
  items : List Object
  err : Option GoError := none
deriving DecidableEq, Repr

/-- `corev1.Namespace`. -/
structure Namespace where
  name : String
deriving DecidableEq, Repr

/-- `corev1.NamespaceList`. -/
structure NamespaceList where
  items : List Namespace
deriving DecidableEq, Repr

/-! ## Admission reviews -/

/-- `admissionv1.AdmissionRequest`. -/
structure AdmissionRequest where
  uid : String
  name : String
  ns : String
  operation : String
  object : Unstructured
deriving DecidableEq, Repr

/-- `admissionv1.AdmissionResponse`: the policy server's verdict. -/
structure AdmissionResponse where
  uid : String
  allowed : Bool
deriving DecidableEq, Repr

/-- `admissionv1.AdmissionReview`: both of its parts are pointers, and either may be nil
in a review decoded from a policy server's answer. -/
structure AdmissionReview where
  request : Option AdmissionRequest := none
  response : Option AdmissionResponse := none
deriving DecidableEq, Repr

/-- Modelled from the spec: `newAdmissionReview` is not among the sources.  The request
embeds the resource and simulates its creation. -/
def newAdmissionReview (resource : Unstructured) : AdmissionReview where
  request := some
    { uid := resource.uid, name := resource.name, ns := resource.ns,
      operation := "CREATE", object := resource }

@[simp] theorem newAdmissionReview_request (resource : Unstructured) :
    (newAdmissionReview resource).request = some
      { uid := resource.uid, name := resource.name, ns := resource.ns,
        operation := "CREATE", object := resource } := rfl

/-! ## Policy reports -/

/-- One result of a report: the policy, the evaluator's response and whether the
evaluation errored. -/
structure ResultEntry where
  policy : Policy
  response : Option AdmissionResponse
  errored : Bool
deriving DecidableEq, Repr

/-- A namespaced policy report. -/
structure PolicyReport where
  name : String
  /-- The report's namespace (`GetNamespace()`). -/
  ns : String
  results : List ResultEntry := []
deriving DecidableEq, Repr

/-- The cluster-wide policy report. -/
structure ClusterPolicyReport where
  name : String
  results : List ResultEntry := []
deriving DecidableEq, Repr

/-- Modelled from the spec: `report.NewPolicyReport` is not among the sources.  A fresh
report for the resource's namespace, named after the resource, with no results. -/
def newPolicyReport (resource : Unstructured) : PolicyReport :=
  { name := resource.uid, ns := resource.ns }

/-- Modelled from the spec: `report.NewClusterPolicyReport` is not among the sources.
A fresh cluster-wide report with no results. -/
def newClusterPolicyReport (name : String) : ClusterPolicyReport := { name }

/-- Modelled from the spec: `report.AddResultToPolicyReport` is not among the sources.
It appends one result. -/
def addResultToPolicyReport (report : PolicyReport) (policy : Policy)
    (response : Option AdmissionResponse) (errored : Bool) : PolicyReport :=
  { report with results := report.results ++ [⟨policy, response, errored⟩] }

/-- Modelled from the spec: `report.AddResultToClusterPolicyReport` is not among the
sources.  It appends one result. -/
def addResultToClusterPolicyReport (report : ClusterPolicyReport) (policy : Policy)
    (response : Option AdmissionResponse) (errored : Bool) : ClusterPolicyReport :=
  { report with results := report.results ++ [⟨policy, response, errored⟩] }

end AuditScanner
