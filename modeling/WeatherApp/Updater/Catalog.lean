import WeatherApp.Db.Catalog

/-!
# Rows of the upstream catalog

The city mapper of the NMC provider (`updater/src/provider/nmc/mapper/mod.rs`). The resolution of
the URL of a row is a parameter.
-/

namespace WeatherApp

/-- `CityDto`. -/
structure CityDto where
  code : String
  province : String
  city : String
  url : String
  deriving DecidableEq, Repr

/-- `validate_catalog_field`. -/
def validateCatalogField (value kind : String) (index : ℕ) (field : String) :
    Except String Unit :=
  if trim value = "" ∨ trim value = "9999" then
    .error s!"NMC {kind}[{index}].{field} is empty or sentinel"
  else .ok ⟨⟩

/-- The step of `map_cities` for one row. -/
def mapCity (requiredResourceUrl : String → Except String String) (providerProvinceCode : String)
    (row : CityDto) (index : ℕ) : Except String ProviderCity := do
  validateCatalogField row.code "city" index "code"
  validateCatalogField row.province "city" index "province"
  validateCatalogField row.city "city" index "city"
  let url ← (requiredResourceUrl row.url).mapError fun err => s!"invalid NMC city[{index}].url: {err}"
  return ⟨row.code, providerProvinceCode, row.province, row.city, url⟩

/-- `map_cities`. -/
def mapCities (requiredResourceUrl : String → Except String String) (rows : List CityDto)
    (providerProvinceCode : String) : Except String (List ProviderCity) :=
  rows.zipIdx.mapM fun (row, index) => mapCity requiredResourceUrl providerProvinceCode row index

end WeatherApp
