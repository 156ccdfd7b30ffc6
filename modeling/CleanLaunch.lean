import CleanLaunch.Files.System
import CleanLaunch.Launch.Session
import CleanLaunch.Files.Running
import CleanLaunch.Host.Channel
import CleanLaunch.Proofs.Descriptor.Division
import CleanLaunch.Proofs.Descriptor.Range
import CleanLaunch.Proofs.Descriptor.Reporting
import CleanLaunch.Proofs.Environ.Splitting
import CleanLaunch.Proofs.Launch.Inheritance
import CleanLaunch.Proofs.Launch.Noninterference
import CleanLaunch.Proofs.Launch.Keeping
import CleanLaunch.Proofs.Environ.Running
import CleanLaunch.Proofs.Environ.Frame
import CleanLaunch.Proofs.Environ.Building
import CleanLaunch.Proofs.Launch.StandardError
import CleanLaunch.Proofs.Launch.AllOrNothing
import CleanLaunch.Proofs.Launch.Starting
import CleanLaunch.Proofs.Report.LineBuffer
import CleanLaunch.Proofs.Descriptor.Scanning
import CleanLaunch.Proofs.Descriptor.Numeral
