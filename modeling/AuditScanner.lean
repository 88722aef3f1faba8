import AuditScanner.Go
import AuditScanner.Kube
import AuditScanner.Log
import AuditScanner.Report.Store
import AuditScanner.Report.Save
import AuditScanner.Report.Concurrent
import AuditScanner.Report.Locks
import AuditScanner.Report.LockedStore
import AuditScanner.Scanner.Cluster
import AuditScanner.Scanner.Audit
import AuditScanner.Scanner.Scan
import AuditScanner.Scanner.NewScanner
import AuditScanner.Scanner.Scope
