/-! Why a text is not the URL of a host that can be asked. -/
namespace DonationPage

inductive UrlFault where
  | notHttp
  | emptyHost
  | badName
  | badService
  | badV4
  | badV6
deriving DecidableEq

def UrlFault.message : UrlFault → String
  | notHttp => "URL scheme is not allowed"
  | emptyHost => "empty host"
  | badName => "invalid international domain name"
  | badService => "invalid port number"
  | badV4 => "invalid IPv4 address"
  | badV6 => "invalid IPv6 address"

end DonationPage
