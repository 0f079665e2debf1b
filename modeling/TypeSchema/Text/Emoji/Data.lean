/-!
# Names of emoji

Each entry gives the code points of an emoji, and the names under which it may be written, with
blanks between them.
-/

namespace TypeSchema.Text.Emoji

set_option maxRecDepth 20000 in
/-- The emoji that have names. -/
def entries : List (List Nat × String) :=
  [([0x1f947], "1st_place_medal"), ([0x1f948], "2nd_place_medal"), ([0x1f949], "3rd_place_medal"),
   ([0x1f18e], "ab_button_(blood_type) ab"), ([0x1f3e7], "atm_sign atm"),
   ([0x1f170], "a_button_(blood_type) a"), ([0x1f1e6, 0x1f1eb], "afghanistan flag_for_afghanistan"),
   ([0x1f1e6, 0x1f1f1], "albania flag_for_albania"),
   ([0x1f1e9, 0x1f1ff], "algeria flag_for_algeria"),
   ([0x1f1e6, 0x1f1f8], "american_samoa flag_for_american_samoa"),
   ([0x1f1e6, 0x1f1e9], "andorra flag_for_andorra"), ([0x1f1e6, 0x1f1f4], "angola flag_for_angola"),
   ([0x1f1e6, 0x1f1ee], "anguilla flag_for_anguilla"),
   ([0x1f1e6, 0x1f1f6], "antarctica flag_for_antarctica"),
   ([0x1f1e6, 0x1f1ec], "antigua_&_barbuda flag_for_antigua_&_barbuda"), ([0x2652], "aquarius"),
   ([0x1f1e6, 0x1f1f7], "argentina flag_for_argentina"), ([0x2648], "aries"),
   ([0x1f1e6, 0x1f1f2], "armenia flag_for_armenia"), ([0x1f1e6, 0x1f1fc], "aruba flag_for_aruba"),
   ([0x1f1e6, 0x1f1e8], "ascension_island flag_for_ascension_island"),
   ([0x1f1e6, 0x1f1fa], "australia flag_for_australia"),
   ([0x1f1e6, 0x1f1f9], "austria flag_for_austria"),
   ([0x1f1e6, 0x1f1ff], "azerbaijan flag_for_azerbaijan"), ([0x1f519], "back_arrow back"),
   ([0x1f171], "b_button_(blood_type) b"), ([0x1f1e7, 0x1f1f8], "bahamas flag_for_bahamas"),
   ([0x1f1e7, 0x1f1ed], "bahrain flag_for_bahrain"),
   ([0x1f1e7, 0x1f1e9], "bangladesh flag_for_bangladesh"),
   ([0x1f1e7, 0x1f1e7], "barbados flag_for_barbados"),
   ([0x1f1e7, 0x1f1fe], "belarus flag_for_belarus"),
   ([0x1f1e7, 0x1f1ea], "belgium flag_for_belgium"), ([0x1f1e7, 0x1f1ff], "belize flag_for_belize"),
   ([0x1f1e7, 0x1f1ef], "benin flag_for_benin"), ([0x1f1e7, 0x1f1f2], "bermuda flag_for_bermuda"),
   ([0x1f1e7, 0x1f1f9], "bhutan flag_for_bhutan"), ([0x1f1e7, 0x1f1f4], "bolivia flag_for_bolivia"),
   ([0x1f1e7, 0x1f1e6], "bosnia_&_herzegovina flag_for_bosnia_&_herzegovina"),
   ([0x1f1e7, 0x1f1fc], "botswana flag_for_botswana"),
   ([0x1f1e7, 0x1f1fb], "bouvet_island flag_for_bouvet_island"),
   ([0x1f1e7, 0x1f1f7], "brazil flag_for_brazil"),
   ([0x1f1ee, 0x1f1f4], "british_indian_ocean_territory flag_for_british_indian_ocean_territory"),
   ([0x1f1fb, 0x1f1ec], "british_virgin_islands flag_for_british_virgin_islands"),
   ([0x1f1e7, 0x1f1f3], "brunei flag_for_brunei"),
   ([0x1f1e7, 0x1f1ec], "bulgaria flag_for_bulgaria"),
   ([0x1f1e7, 0x1f1eb], "burkina_faso flag_for_burkina_faso"),
   ([0x1f1e7, 0x1f1ee], "burundi flag_for_burundi"), ([0x1f191], "cl_button cl"),
   ([0x1f192], "cool_button cool"), ([0x1f1f0, 0x1f1ed], "cambodia flag_for_cambodia"),
   ([0x1f1e8, 0x1f1f2], "cameroon flag_for_cameroon"),
   ([0x1f1e8, 0x1f1e6], "canada flag_for_canada"),
   ([0x1f1ee, 0x1f1e8], "canary_islands flag_for_canary_islands"), ([0x264b], "cancer"),
   ([0x1f1e8, 0x1f1fb], "cape_verde flag_for_cape_verde"), ([0x2651], "capricorn"),
   ([0x1f1e7, 0x1f1f6], "caribbean_netherlands flag_for_caribbean_netherlands"),
   ([0x1f1f0, 0x1f1fe], "cayman_islands flag_for_cayman_islands"),
   ([0x1f1e8, 0x1f1eb], "central_african_republic flag_for_central_african_republic"),
   ([0x1f1ea, 0x1f1e6], "ceuta_&_melilla flag_for_ceuta_&_melilla"),
   ([0x1f1f9, 0x1f1e9], "chad flag_for_chad"), ([0x1f1e8, 0x1f1f1], "chile flag_for_chile"),
   ([0x1f1e8, 0x1f1f3], "china flag_for_china"),
   ([0x1f1e8, 0x1f1fd], "christmas_island flag_for_christmas_island"),
   ([0x1f384], "christmas_tree"),
   ([0x1f1e8, 0x1f1f5], "clipperton_island flag_for_clipperton_island"),
   ([0x1f1e8, 0x1f1e8], "cocos_(keeling)_islands flag_for_cocos__islands"),
   ([0x1f1e8, 0x1f1f4], "colombia flag_for_colombia"),
   ([0x1f1f0, 0x1f1f2], "comoros flag_for_comoros"),
   ([0x1f1e8, 0x1f1ec], "congo_-_brazzaville flag_for_congo____brazzaville"),
   ([0x1f1e8, 0x1f1e9], "congo_-_kinshasa flag_for_congo____kinshasa"),
   ([0x1f1e8, 0x1f1f0], "cook_islands flag_for_cook_islands"),
   ([0x1f1e8, 0x1f1f7], "costa_rica flag_for_costa_rica"),
   ([0x1f1ed, 0x1f1f7], "croatia flag_for_croatia"), ([0x1f1e8, 0x1f1fa], "cuba flag_for_cuba"),
   ([0x1f1e8, 0x1f1fc], "curaçao flag_for_curaçao"), ([0x1f1e8, 0x1f1fe], "cyprus flag_for_cyprus"),
   ([0x1f1e8, 0x1f1ff], "czechia flag_for_czech_republic"),
   ([0x1f1e8, 0x1f1ee], "côte_d’ivoire flag_for_côte_d’ivoire"),
   ([0x1f1e9, 0x1f1f0], "denmark flag_for_denmark"),
   ([0x1f1e9, 0x1f1ec], "diego_garcia flag_for_diego_garcia"),
   ([0x1f1e9, 0x1f1ef], "djibouti flag_for_djibouti"),
   ([0x1f1e9, 0x1f1f2], "dominica flag_for_dominica"),
   ([0x1f1e9, 0x1f1f4], "dominican_republic flag_for_dominican_republic"),
   ([0x1f51a], "end_arrow end"), ([0x1f1ea, 0x1f1e8], "ecuador flag_for_ecuador"),
   ([0x1f1ea, 0x1f1ec], "egypt flag_for_egypt"),
   ([0x1f1f8, 0x1f1fb], "el_salvador flag_for_el_salvador"),
   ([0x1f3f4, 0xe0067, 0xe0062, 0xe0065, 0xe006e, 0xe0067, 0xe007f], "england"),
   ([0x1f1ec, 0x1f1f6], "equatorial_guinea flag_for_equatorial_guinea"),
   ([0x1f1ea, 0x1f1f7], "eritrea flag_for_eritrea"),
   ([0x1f1ea, 0x1f1ea], "estonia flag_for_estonia"),
   ([0x1f1ea, 0x1f1f9], "ethiopia flag_for_ethiopia"),
   ([0x1f1ea, 0x1f1fa], "european_union flag_for_european_union"), ([0x1f193], "free_button free"),
   ([0x1f1eb, 0x1f1f0], "falkland_islands flag_for_falkland_islands"),
   ([0x1f1eb, 0x1f1f4], "faroe_islands flag_for_faroe_islands"),
   ([0x1f1eb, 0x1f1ef], "fiji flag_for_fiji"), ([0x1f1eb, 0x1f1ee], "finland flag_for_finland"),
   ([0x1f1eb, 0x1f1f7], "france flag_for_france"),
   ([0x1f1ec, 0x1f1eb], "french_guiana flag_for_french_guiana"),
   ([0x1f1f5, 0x1f1eb], "french_polynesia flag_for_french_polynesia"),
   ([0x1f1f9, 0x1f1eb], "french_southern_territories flag_for_french_southern_territories"),
   ([0x1f1ec, 0x1f1e6], "gabon flag_for_gabon"), ([0x1f1ec, 0x1f1f2], "gambia flag_for_gambia"),
   ([0x264a], "gemini"), ([0x1f1ec, 0x1f1ea], "georgia flag_for_georgia"),
   ([0x1f1e9, 0x1f1ea], "germany flag_for_germany"), ([0x1f1ec, 0x1f1ed], "ghana flag_for_ghana"),
   ([0x1f1ec, 0x1f1ee], "gibraltar flag_for_gibraltar"),
   ([0x1f1ec, 0x1f1f7], "greece flag_for_greece"),
   ([0x1f1ec, 0x1f1f1], "greenland flag_for_greenland"),
   ([0x1f1ec, 0x1f1e9], "grenada flag_for_grenada"),
   ([0x1f1ec, 0x1f1f5], "guadeloupe flag_for_guadeloupe"),
   ([0x1f1ec, 0x1f1fa], "guam flag_for_guam"), ([0x1f1ec, 0x1f1f9], "guatemala flag_for_guatemala"),
   ([0x1f1ec, 0x1f1ec], "guernsey flag_for_guernsey"),
   ([0x1f1ec, 0x1f1f3], "guinea flag_for_guinea"),
   ([0x1f1ec, 0x1f1fc], "guinea-bissau flag_for_guinea__bissau"),
   ([0x1f1ec, 0x1f1fe], "guyana flag_for_guyana"), ([0x1f1ed, 0x1f1f9], "haiti flag_for_haiti"),
   ([0x1f1ed, 0x1f1f2], "heard_&_mcdonald_islands flag_for_heard_&_mcdonald_islands"),
   ([0x1f1ed, 0x1f1f3], "honduras flag_for_honduras"),
   ([0x1f1ed, 0x1f1f0], "hong_kong_sar_china flag_for_hong_kong"),
   ([0x1f1ed, 0x1f1fa], "hungary flag_for_hungary"), ([0x1f194], "id_button id"),
   ([0x1f1ee, 0x1f1f8], "iceland flag_for_iceland"), ([0x1f1ee, 0x1f1f3], "india flag_for_india"),
   ([0x1f1ee, 0x1f1e9], "indonesia flag_for_indonesia"), ([0x1f1ee, 0x1f1f7], "iran flag_for_iran"),
   ([0x1f1ee, 0x1f1f6], "iraq flag_for_iraq"), ([0x1f1ee, 0x1f1ea], "ireland flag_for_ireland"),
   ([0x1f1ee, 0x1f1f2], "isle_of_man flag_for_isle_of_man"),
   ([0x1f1ee, 0x1f1f1], "israel flag_for_israel"), ([0x1f1ee, 0x1f1f9], "italy flag_for_italy"),
   ([0x1f1ef, 0x1f1f2], "jamaica flag_for_jamaica"), ([0x1f5fe], "japan map_of_japan"),
   ([0x1f251], "japanese_acceptable_button accept"),
   ([0x1f238], "japanese_application_button u7533"),
   ([0x1f250], "japanese_bargain_button ideograph_advantage"), ([0x1f3ef], "japanese_castle"),
   ([0x3297], "japanese_congratulations_button congratulations"),
   ([0x1f239], "japanese_discount_button u5272"), ([0x1f38e], "japanese_dolls dolls"),
   ([0x1f21a], "japanese_free_of_charge_button u7121"), ([0x1f201], "japanese_here_button koko"),
   ([0x1f237], "japanese_monthly_amount_button u6708"),
   ([0x1f235], "japanese_no_vacancy_button u6e80"),
   ([0x1f236], "japanese_not_free_of_charge_button u6709"),
   ([0x1f23a], "japanese_open_for_business_button u55b6"),
   ([0x1f234], "japanese_passing_grade_button u5408"),
   ([0x1f3e3], "japanese_post_office post_office"), ([0x1f232], "japanese_prohibited_button u7981"),
   ([0x1f22f], "japanese_reserved_button u6307"), ([0x3299], "japanese_secret_button secret"),
   ([0x1f202], "japanese_service_charge_button sa"),
   ([0x1f530], "japanese_symbol_for_beginner beginner"),
   ([0x1f233], "japanese_vacancy_button u7a7a"), ([0x1f1ef, 0x1f1ea], "jersey flag_for_jersey"),
   ([0x1f1ef, 0x1f1f4], "jordan flag_for_jordan"),
   ([0x1f1f0, 0x1f1ff], "kazakhstan flag_for_kazakhstan"),
   ([0x1f1f0, 0x1f1ea], "kenya flag_for_kenya"), ([0x1f1f0, 0x1f1ee], "kiribati flag_for_kiribati"),
   ([0x1f1fd, 0x1f1f0], "kosovo flag_for_kosovo"), ([0x1f1f0, 0x1f1fc], "kuwait flag_for_kuwait"),
   ([0x1f1f0, 0x1f1ec], "kyrgyzstan flag_for_kyrgyzstan"),
   ([0x1f1f1, 0x1f1e6], "laos flag_for_laos"), ([0x1f1f1, 0x1f1fb], "latvia flag_for_latvia"),
   ([0x1f1f1, 0x1f1e7], "lebanon flag_for_lebanon"), ([0x264c], "leo"),
   ([0x1f1f1, 0x1f1f8], "lesotho flag_for_lesotho"),
   ([0x1f1f1, 0x1f1f7], "liberia flag_for_liberia"), ([0x264e], "libra"),
   ([0x1f1f1, 0x1f1fe], "libya flag_for_libya"),
   ([0x1f1f1, 0x1f1ee], "liechtenstein flag_for_liechtenstein"),
   ([0x1f1f1, 0x1f1f9], "lithuania flag_for_lithuania"),
   ([0x1f1f1, 0x1f1fa], "luxembourg flag_for_luxembourg"),
   ([0x1f1f2, 0x1f1f4], "macau_sar_china flag_for_macau"),
   ([0x1f1f2, 0x1f1f0], "macedonia flag_for_macedonia"),
   ([0x1f1f2, 0x1f1ec], "madagascar flag_for_madagascar"),
   ([0x1f1f2, 0x1f1fc], "malawi flag_for_malawi"),
   ([0x1f1f2, 0x1f1fe], "malaysia flag_for_malaysia"),
   ([0x1f1f2, 0x1f1fb], "maldives flag_for_maldives"), ([0x1f1f2, 0x1f1f1], "mali flag_for_mali"),
   ([0x1f1f2, 0x1f1f9], "malta flag_for_malta"),
   ([0x1f1f2, 0x1f1ed], "marshall_islands flag_for_marshall_islands"),
   ([0x1f1f2, 0x1f1f6], "martinique flag_for_martinique"),
   ([0x1f1f2, 0x1f1f7], "mauritania flag_for_mauritania"),
   ([0x1f1f2, 0x1f1fa], "mauritius flag_for_mauritius"),
   ([0x1f1fe, 0x1f1f9], "mayotte flag_for_mayotte"), ([0x1f1f2, 0x1f1fd], "mexico flag_for_mexico"),
   ([0x1f1eb, 0x1f1f2], "micronesia flag_for_micronesia"),
   ([0x1f1f2, 0x1f1e9], "moldova flag_for_moldova"), ([0x1f1f2, 0x1f1e8], "monaco flag_for_monaco"),
   ([0x1f1f2, 0x1f1f3], "mongolia flag_for_mongolia"),
   ([0x1f1f2, 0x1f1ea], "montenegro flag_for_montenegro"),
   ([0x1f1f2, 0x1f1f8], "montserrat flag_for_montserrat"),
   ([0x1f1f2, 0x1f1e6], "morocco flag_for_morocco"),
   ([0x1f1f2, 0x1f1ff], "mozambique flag_for_mozambique"), ([0x1f936], "mrs._claus"),
   ([0x1f936, 0x1f3ff], "mrs._claus_dark_skin_tone"),
   ([0x1f936, 0x1f3fb], "mrs._claus_light_skin_tone"),
   ([0x1f936, 0x1f3fe], "mrs._claus_medium-dark_skin_tone"),
   ([0x1f936, 0x1f3fc], "mrs._claus_medium-light_skin_tone"),
   ([0x1f936, 0x1f3fd], "mrs._claus_medium_skin_tone"),
   ([0x1f1f2, 0x1f1f2], "myanmar_(burma) flag_for_myanmar"), ([0x1f195], "new_button new"),
   ([0x1f196], "ng_button ng"), ([0x1f1f3, 0x1f1e6], "namibia flag_for_namibia"),
   ([0x1f1f3, 0x1f1f7], "nauru flag_for_nauru"), ([0x1f1f3, 0x1f1f5], "nepal flag_for_nepal"),
   ([0x1f1f3, 0x1f1f1], "netherlands flag_for_netherlands"),
   ([0x1f1f3, 0x1f1e8], "new_caledonia flag_for_new_caledonia"),
   ([0x1f1f3, 0x1f1ff], "new_zealand flag_for_new_zealand"),
   ([0x1f1f3, 0x1f1ee], "nicaragua flag_for_nicaragua"),
   ([0x1f1f3, 0x1f1ea], "niger flag_for_niger"), ([0x1f1f3, 0x1f1ec], "nigeria flag_for_nigeria"),
   ([0x1f1f3, 0x1f1fa], "niue flag_for_niue"),
   ([0x1f1f3, 0x1f1eb], "norfolk_island flag_for_norfolk_island"),
   ([0x1f1f0, 0x1f1f5], "north_korea flag_for_north_korea"),
   ([0x1f1f2, 0x1f1f5], "northern_mariana_islands flag_for_northern_mariana_islands"),
   ([0x1f1f3, 0x1f1f4], "norway flag_for_norway"), ([0x1f197], "ok_button ok"),
   ([0x1f44c], "ok_hand"), ([0x1f44c, 0x1f3ff], "ok_hand_dark_skin_tone"),
   ([0x1f44c, 0x1f3fb], "ok_hand_light_skin_tone"),
   ([0x1f44c, 0x1f3fe], "ok_hand_medium-dark_skin_tone"),
   ([0x1f44c, 0x1f3fc], "ok_hand_medium-light_skin_tone"),
   ([0x1f44c, 0x1f3fd], "ok_hand_medium_skin_tone"), ([0x1f51b], "on!_arrow on"),
   ([0x1f17e], "o_button_(blood_type) o2"), ([0x1f1f4, 0x1f1f2], "oman flag_for_oman"),
   ([0x26ce], "ophiuchus"), ([0x1f17f], "p_button parking"),
   ([0x1f1f5, 0x1f1f0], "pakistan flag_for_pakistan"), ([0x1f1f5, 0x1f1fc], "palau flag_for_palau"),
   ([0x1f1f5, 0x1f1f8], "palestinian_territories flag_for_palestinian_territories"),
   ([0x1f1f5, 0x1f1e6], "panama flag_for_panama"),
   ([0x1f1f5, 0x1f1ec], "papua_new_guinea flag_for_papua_new_guinea"),
   ([0x1f1f5, 0x1f1fe], "paraguay flag_for_paraguay"), ([0x1f1f5, 0x1f1ea], "peru flag_for_peru"),
   ([0x1f1f5, 0x1f1ed], "philippines flag_for_philippines"), ([0x2653], "pisces"),
   ([0x1f1f5, 0x1f1f3], "pitcairn_islands flag_for_pitcairn_islands"),
   ([0x1f1f5, 0x1f1f1], "poland flag_for_poland"),
   ([0x1f1f5, 0x1f1f9], "portugal flag_for_portugal"),
   ([0x1f1f5, 0x1f1f7], "puerto_rico flag_for_puerto_rico"),
   ([0x1f1f6, 0x1f1e6], "qatar flag_for_qatar"), ([0x1f1f7, 0x1f1f4], "romania flag_for_romania"),
   ([0x1f1f7, 0x1f1fa], "russia flag_for_russia"), ([0x1f1f7, 0x1f1fc], "rwanda flag_for_rwanda"),
   ([0x1f1f7, 0x1f1ea], "réunion flag_for_réunion"), ([0x1f51c], "soon_arrow soon"),
   ([0x1f198], "sos_button sos"), ([0x2650], "sagittarius"),
   ([0x1f1fc, 0x1f1f8], "samoa flag_for_samoa"),
   ([0x1f1f8, 0x1f1f2], "san_marino flag_for_san_marino"), ([0x1f385], "santa_claus santa"),
   ([0x1f385, 0x1f3ff], "santa_claus_dark_skin_tone"),
   ([0x1f385, 0x1f3fb], "santa_claus_light_skin_tone"),
   ([0x1f385, 0x1f3fe], "santa_claus_medium-dark_skin_tone"),
   ([0x1f385, 0x1f3fc], "santa_claus_medium-light_skin_tone"),
   ([0x1f385, 0x1f3fd], "santa_claus_medium_skin_tone"),
   ([0x1f1f8, 0x1f1e6], "saudi_arabia flag_for_saudi_arabia"), ([0x264f], "scorpio scorpius"),
   ([0x1f3f4, 0xe0067, 0xe0062, 0xe0073, 0xe0063, 0xe0074, 0xe007f], "scotland"),
   ([0x1f1f8, 0x1f1f3], "senegal flag_for_senegal"), ([0x1f1f7, 0x1f1f8], "serbia flag_for_serbia"),
   ([0x1f1f8, 0x1f1e8], "seychelles flag_for_seychelles"),
   ([0x1f1f8, 0x1f1f1], "sierra_leone flag_for_sierra_leone"),
   ([0x1f1f8, 0x1f1ec], "singapore flag_for_singapore"),
   ([0x1f1f8, 0x1f1fd], "sint_maarten flag_for_sint_maarten"),
   ([0x1f1f8, 0x1f1f0], "slovakia flag_for_slovakia"),
   ([0x1f1f8, 0x1f1ee], "slovenia flag_for_slovenia"),
   ([0x1f1f8, 0x1f1e7], "solomon_islands flag_for_solomon_islands"),
   ([0x1f1f8, 0x1f1f4], "somalia flag_for_somalia"),
   ([0x1f1ff, 0x1f1e6], "south_africa flag_for_south_africa"),
   ([0x1f1ec, 0x1f1f8], "south_georgia_&_south_sandwich_islands flag_for_south_georgia_&_south_sandwich_islands"),
   ([0x1f1f0, 0x1f1f7], "south_korea flag_for_south_korea"),
   ([0x1f1f8, 0x1f1f8], "south_sudan flag_for_south_sudan"),
   ([0x1f1ea, 0x1f1f8], "spain flag_for_spain"),
   ([0x1f1f1, 0x1f1f0], "sri_lanka flag_for_sri_lanka"),
   ([0x1f1e7, 0x1f1f1], "st._barthélemy flag_for_st._barthélemy"),
   ([0x1f1f8, 0x1f1ed], "st._helena flag_for_st._helena"),
   ([0x1f1f0, 0x1f1f3], "st._kitts_&_nevis flag_for_st._kitts_&_nevis"),
   ([0x1f1f1, 0x1f1e8], "st._lucia flag_for_st._lucia"),
   ([0x1f1f2, 0x1f1eb], "st._martin flag_for_st._martin"),
   ([0x1f1f5, 0x1f1f2], "st._pierre_&_miquelon flag_for_st._pierre_&_miquelon"),
   ([0x1f1fb, 0x1f1e8], "st._vincent_&_grenadines flag_for_st._vincent_&_grenadines"),
   ([0x1f5fd], "statue_of_liberty"), ([0x1f1f8, 0x1f1e9], "sudan flag_for_sudan"),
   ([0x1f1f8, 0x1f1f7], "suriname flag_for_suriname"),
   ([0x1f1f8, 0x1f1ef], "svalbard_&_jan_mayen flag_for_svalbard_&_jan_mayen"),
   ([0x1f1f8, 0x1f1ff], "swaziland flag_for_swaziland"),
   ([0x1f1f8, 0x1f1ea], "sweden flag_for_sweden"),
   ([0x1f1e8, 0x1f1ed], "switzerland flag_for_switzerland"),
   ([0x1f1f8, 0x1f1fe], "syria flag_for_syria"),
   ([0x1f1f8, 0x1f1f9], "são_tomé_&_príncipe flag_for_são_tomé_&_príncipe"), ([0x1f996], "t-rex"),
   ([0x1f51d], "top_arrow top"), ([0x1f1f9, 0x1f1fc], "taiwan flag_for_taiwan"),
   ([0x1f1f9, 0x1f1ef], "tajikistan flag_for_tajikistan"),
   ([0x1f1f9, 0x1f1ff], "tanzania flag_for_tanzania"), ([0x2649], "taurus"),
   ([0x1f1f9, 0x1f1ed], "thailand flag_for_thailand"),
   ([0x1f1f9, 0x1f1f1], "timor-leste flag_for_timor__leste"),
   ([0x1f1f9, 0x1f1ec], "togo flag_for_togo"), ([0x1f1f9, 0x1f1f0], "tokelau flag_for_tokelau"),
   ([0x1f5fc], "tokyo_tower"), ([0x1f1f9, 0x1f1f4], "tonga flag_for_tonga"),
   ([0x1f1f9, 0x1f1f9], "trinidad_&_tobago flag_for_trinidad_&_tobago"),
   ([0x1f1f9, 0x1f1e6], "tristan_da_cunha flag_for_tristan_da_cunha"),
   ([0x1f1f9, 0x1f1f3], "tunisia flag_for_tunisia"), ([0x1f983], "turkey"),
   ([0x1f1f9, 0x1f1f2], "turkmenistan flag_for_turkmenistan"),
   ([0x1f1f9, 0x1f1e8], "turks_&_caicos_islands flag_for_turks_&_caicos_islands"),
   ([0x1f1f9, 0x1f1fb], "tuvalu flag_for_tuvalu"),
   ([0x1f1fa, 0x1f1f2], "u.s._outlying_islands flag_for_u.s._outlying_islands"),
   ([0x1f1fb, 0x1f1ee], "u.s._virgin_islands flag_for_u.s._virgin_islands"),
   ([0x1f199], "up!_button up"), ([0x1f1fa, 0x1f1ec], "uganda flag_for_uganda"),
   ([0x1f1fa, 0x1f1e6], "ukraine flag_for_ukraine"),
   ([0x1f1e6, 0x1f1ea], "united_arab_emirates flag_for_united_arab_emirates"),
   ([0x1f1ec, 0x1f1e7], "united_kingdom flag_for_united_kingdom"),
   ([0x1f1fa, 0x1f1f3], "united_nations"),
   ([0x1f1fa, 0x1f1f8], "united_states flag_for_united_states"),
   ([0x1f1fa, 0x1f1fe], "uruguay flag_for_uruguay"),
   ([0x1f1fa, 0x1f1ff], "uzbekistan flag_for_uzbekistan"), ([0x1f19a], "vs_button vs"),
   ([0x1f1fb, 0x1f1fa], "vanuatu flag_for_vanuatu"),
   ([0x1f1fb, 0x1f1e6], "vatican_city flag_for_vatican_city"),
   ([0x1f1fb, 0x1f1ea], "venezuela flag_for_venezuela"),
   ([0x1f1fb, 0x1f1f3], "vietnam flag_for_vietnam"), ([0x264d], "virgo"),
   ([0x1f3f4, 0xe0067, 0xe0062, 0xe0077, 0xe006c, 0xe0073, 0xe007f], "wales"),
   ([0x1f1fc, 0x1f1eb], "wallis_&_futuna flag_for_wallis_&_futuna"),
   ([0x1f1ea, 0x1f1ed], "western_sahara flag_for_western_sahara"),
   ([0x1f1fe, 0x1f1ea], "yemen flag_for_yemen"), ([0x1f1ff, 0x1f1f2], "zambia flag_for_zambia"),
   ([0x1f1ff, 0x1f1fc], "zimbabwe flag_for_zimbabwe"), ([0x1f9ee], "abacus"),
   ([0x1fa79], "adhesive_bandage"), ([0x1f39f], "admission_tickets"), ([0x1f9d1], "adult"),
   ([0x1f9d1, 0x1f3ff], "adult_dark_skin_tone"), ([0x1f9d1, 0x1f3fb], "adult_light_skin_tone"),
   ([0x1f9d1, 0x1f3fe], "adult_medium-dark_skin_tone"),
   ([0x1f9d1, 0x1f3fc], "adult_medium-light_skin_tone"),
   ([0x1f9d1, 0x1f3fd], "adult_medium_skin_tone"), ([0x1f6a1], "aerial_tramway"),
   ([0x2708], "airplane"), ([0x1f6ec], "airplane_arrival airplane_arriving"),
   ([0x1f6eb], "airplane_departure"), ([0x23f0], "alarm_clock"), ([0x2697], "alembic"),
   ([0x1f47d], "alien"), ([0x1f47e], "alien_monster space_invader"), ([0x1f691], "ambulance"),
   ([0x1f3c8], "american_football football"), ([0x1f3fa], "amphora"), ([0x2693], "anchor"),
   ([0x1f4a2], "anger_symbol anger"), ([0x1f620], "angry_face angry"),
   ([0x1f47f], "angry_face_with_horns imp"), ([0x1f627], "anguished_face anguished"),
   ([0x1f41c], "ant"), ([0x1f4f6], "antenna_bars signal_strength"),
   ([0x1f630], "anxious_face_with_sweat cold_sweat"), ([0x1f69b], "articulated_lorry"),
   ([0x1f3a8], "artist_palette art"), ([0x1f632], "astonished_face astonished"),
   ([0x269b], "atom_symbol"), ([0x1f6fa], "auto_rickshaw"), ([0x1f697], "automobile car red_car"),
   ([0x1f951], "avocado"), ([0x1fa93], "axe"), ([0x1f476], "baby"), ([0x1f47c], "baby_angel angel"),
   ([0x1f47c, 0x1f3ff], "baby_angel_dark_skin_tone"),
   ([0x1f47c, 0x1f3fb], "baby_angel_light_skin_tone"),
   ([0x1f47c, 0x1f3fe], "baby_angel_medium-dark_skin_tone"),
   ([0x1f47c, 0x1f3fc], "baby_angel_medium-light_skin_tone"),
   ([0x1f47c, 0x1f3fd], "baby_angel_medium_skin_tone"), ([0x1f37c], "baby_bottle"),
   ([0x1f424], "baby_chick"), ([0x1f476, 0x1f3ff], "baby_dark_skin_tone"),
   ([0x1f476, 0x1f3fb], "baby_light_skin_tone"), ([0x1f476, 0x1f3fe], "baby_medium-dark_skin_tone"),
   ([0x1f476, 0x1f3fc], "baby_medium-light_skin_tone"),
   ([0x1f476, 0x1f3fd], "baby_medium_skin_tone"), ([0x1f6bc], "baby_symbol"),
   ([0x1f447], "backhand_index_pointing_down point_down"),
   ([0x1f447, 0x1f3ff], "backhand_index_pointing_down_dark_skin_tone"),
   ([0x1f447, 0x1f3fb], "backhand_index_pointing_down_light_skin_tone"),
   ([0x1f447, 0x1f3fe], "backhand_index_pointing_down_medium-dark_skin_tone"),
   ([0x1f447, 0x1f3fc], "backhand_index_pointing_down_medium-light_skin_tone"),
   ([0x1f447, 0x1f3fd], "backhand_index_pointing_down_medium_skin_tone"),
   ([0x1f448], "backhand_index_pointing_left point_left"),
   ([0x1f448, 0x1f3ff], "backhand_index_pointing_left_dark_skin_tone"),
   ([0x1f448, 0x1f3fb], "backhand_index_pointing_left_light_skin_tone"),
   ([0x1f448, 0x1f3fe], "backhand_index_pointing_left_medium-dark_skin_tone"),
   ([0x1f448, 0x1f3fc], "backhand_index_pointing_left_medium-light_skin_tone"),
   ([0x1f448, 0x1f3fd], "backhand_index_pointing_left_medium_skin_tone"),
   ([0x1f449], "backhand_index_pointing_right point_right"),
   ([0x1f449, 0x1f3ff], "backhand_index_pointing_right_dark_skin_tone"),
   ([0x1f449, 0x1f3fb], "backhand_index_pointing_right_light_skin_tone"),
   ([0x1f449, 0x1f3fe], "backhand_index_pointing_right_medium-dark_skin_tone"),
   ([0x1f449, 0x1f3fc], "backhand_index_pointing_right_medium-light_skin_tone"),
   ([0x1f449, 0x1f3fd], "backhand_index_pointing_right_medium_skin_tone"),
   ([0x1f446], "backhand_index_pointing_up point_up_2"),
   ([0x1f446, 0x1f3ff], "backhand_index_pointing_up_dark_skin_tone"),
   ([0x1f446, 0x1f3fb], "backhand_index_pointing_up_light_skin_tone"),
   ([0x1f446, 0x1f3fe], "backhand_index_pointing_up_medium-dark_skin_tone"),
   ([0x1f446, 0x1f3fc], "backhand_index_pointing_up_medium-light_skin_tone"),
   ([0x1f446, 0x1f3fd], "backhand_index_pointing_up_medium_skin_tone"), ([0x1f953], "bacon"),
   ([0x1f9a1], "badger"), ([0x1f3f8], "badminton badminton_racquet_and_shuttlecock"),
   ([0x1f96f], "bagel"), ([0x1f6c4], "baggage_claim"), ([0x1f956], "baguette_bread"),
   ([0x2696], "balance_scale scales"), ([0x1f9b2], "bald"),
   ([0x1f468, 0x200d, 0x1f9b2], "bald_man"), ([0x1f469, 0x200d, 0x1f9b2], "bald_woman"),
   ([0x1fa70], "ballet_shoes"), ([0x1f388], "balloon"), ([0x1f5f3], "ballot_box_with_ballot"),
   ([0x2611], "ballot_box_with_check"), ([0x1f34c], "banana"), ([0x1fa95], "banjo"),
   ([0x1f3e6], "bank"), ([0x1f4ca], "bar_chart"), ([0x1f488], "barber_pole barber"),
   ([0x26be], "baseball"), ([0x1f9fa], "basket"), ([0x1f3c0], "basketball"), ([0x1f987], "bat"),
   ([0x1f6c1], "bathtub"), ([0x1f50b], "battery"), ([0x1f3d6], "beach_with_umbrella"),
   ([0x1f601], "beaming_face_with_smiling_eyes grin"), ([0x1f43b], "bear_face bear"),
   ([0x1f9d4], "bearded_person"), ([0x1f9d4, 0x1f3ff], "bearded_person_dark_skin_tone"),
   ([0x1f9d4, 0x1f3fb], "bearded_person_light_skin_tone"),
   ([0x1f9d4, 0x1f3fe], "bearded_person_medium-dark_skin_tone"),
   ([0x1f9d4, 0x1f3fc], "bearded_person_medium-light_skin_tone"),
   ([0x1f9d4, 0x1f3fd], "bearded_person_medium_skin_tone"), ([0x1f493], "beating_heart heartbeat"),
   ([0x1f6cf], "bed"), ([0x1f37a], "beer_mug beer"), ([0x1f514], "bell"),
   ([0x1f515], "bell_with_slash no_bell"), ([0x1f6ce], "bellhop_bell"),
   ([0x1f371], "bento_box bento"), ([0x1f9c3], "beverage_box"), ([0x1f6b2], "bicycle bike"),
   ([0x1f459], "bikini"), ([0x1f9e2], "billed_cap"), ([0x2623], "biohazard biohazard_sign"),
   ([0x1f426], "bird"), ([0x1f382], "birthday_cake birthday"), ([0x26ab], "black_circle"),
   ([0x1f3f4], "black_flag waving_black_flag"), ([0x1f5a4], "black_heart"),
   ([0x2b1b], "black_large_square"),
   ([0x25fe], "black_medium-small_square black_medium_small_square"),
   ([0x25fc], "black_medium_square"), ([0x2712], "black_nib"), ([0x25aa], "black_small_square"),
   ([0x1f532], "black_square_button"), ([0x1f471, 0x200d, 0x2642, 0xfe0f], "blond-haired_man"),
   ([0x1f471, 0x1f3ff, 0x200d, 0x2642, 0xfe0f], "blond-haired_man_dark_skin_tone"),
   ([0x1f471, 0x1f3fb, 0x200d, 0x2642, 0xfe0f], "blond-haired_man_light_skin_tone"),
   ([0x1f471, 0x1f3fe, 0x200d, 0x2642, 0xfe0f], "blond-haired_man_medium-dark_skin_tone"),
   ([0x1f471, 0x1f3fc, 0x200d, 0x2642, 0xfe0f], "blond-haired_man_medium-light_skin_tone"),
   ([0x1f471, 0x1f3fd, 0x200d, 0x2642, 0xfe0f], "blond-haired_man_medium_skin_tone"),
   ([0x1f471], "blond-haired_person person_with_blond_hair"),
   ([0x1f471, 0x1f3ff], "blond-haired_person_dark_skin_tone"),
   ([0x1f471, 0x1f3fb], "blond-haired_person_light_skin_tone"),
   ([0x1f471, 0x1f3fe], "blond-haired_person_medium-dark_skin_tone"),
   ([0x1f471, 0x1f3fc], "blond-haired_person_medium-light_skin_tone"),
   ([0x1f471, 0x1f3fd], "blond-haired_person_medium_skin_tone"),
   ([0x1f471, 0x200d, 0x2640, 0xfe0f], "blond-haired_woman"),
   ([0x1f471, 0x1f3ff, 0x200d, 0x2640, 0xfe0f], "blond-haired_woman_dark_skin_tone"),
   ([0x1f471, 0x1f3fb, 0x200d, 0x2640, 0xfe0f], "blond-haired_woman_light_skin_tone"),
   ([0x1f471, 0x1f3fe, 0x200d, 0x2640, 0xfe0f], "blond-haired_woman_medium-dark_skin_tone"),
   ([0x1f471, 0x1f3fc, 0x200d, 0x2640, 0xfe0f], "blond-haired_woman_medium-light_skin_tone"),
   ([0x1f471, 0x1f3fd, 0x200d, 0x2640, 0xfe0f], "blond-haired_woman_medium_skin_tone"),
   ([0x1f33c], "blossom"), ([0x1f421], "blowfish"), ([0x1f4d8], "blue_book"),
   ([0x1f535], "blue_circle large_blue_circle"), ([0x1f499], "blue_heart"),
   ([0x1f7e6], "blue_square"), ([0x1f417], "boar"), ([0x1f4a3], "bomb"), ([0x1f9b4], "bone"),
   ([0x1f516], "bookmark"), ([0x1f4d1], "bookmark_tabs"), ([0x1f4da], "books"),
   ([0x1f37e], "bottle_with_popping_cork"), ([0x1f490], "bouquet"), ([0x1f3f9], "bow_and_arrow"),
   ([0x1f963], "bowl_with_spoon"), ([0x1f3b3], "bowling"), ([0x1f94a], "boxing_glove"),
   ([0x1f466], "boy"), ([0x1f466, 0x1f3ff], "boy_dark_skin_tone"),
   ([0x1f466, 0x1f3fb], "boy_light_skin_tone"), ([0x1f466, 0x1f3fe], "boy_medium-dark_skin_tone"),
   ([0x1f466, 0x1f3fc], "boy_medium-light_skin_tone"), ([0x1f466, 0x1f3fd], "boy_medium_skin_tone"),
   ([0x1f9e0], "brain"), ([0x1f35e], "bread"), ([0x1f931], "breast-feeding"),
   ([0x1f931, 0x1f3ff], "breast-feeding_dark_skin_tone"),
   ([0x1f931, 0x1f3fb], "breast-feeding_light_skin_tone"),
   ([0x1f931, 0x1f3fe], "breast-feeding_medium-dark_skin_tone"),
   ([0x1f931, 0x1f3fc], "breast-feeding_medium-light_skin_tone"),
   ([0x1f931, 0x1f3fd], "breast-feeding_medium_skin_tone"), ([0x1f9f1], "brick"),
   ([0x1f470], "bride_with_veil"), ([0x1f470, 0x1f3ff], "bride_with_veil_dark_skin_tone"),
   ([0x1f470, 0x1f3fb], "bride_with_veil_light_skin_tone"),
   ([0x1f470, 0x1f3fe], "bride_with_veil_medium-dark_skin_tone"),
   ([0x1f470, 0x1f3fc], "bride_with_veil_medium-light_skin_tone"),
   ([0x1f470, 0x1f3fd], "bride_with_veil_medium_skin_tone"), ([0x1f309], "bridge_at_night"),
   ([0x1f4bc], "briefcase"), ([0x1fa72], "briefs"), ([0x1f506], "bright_button high_brightness"),
   ([0x1f966], "broccoli"), ([0x1f494], "broken_heart"), ([0x1f9f9], "broom"),
   ([0x1f7e4], "brown_circle"), ([0x1f90e], "brown_heart"), ([0x1f7eb], "brown_square"),
   ([0x1f41b], "bug"), ([0x1f3d7], "building_construction"),
   ([0x1f685], "bullet_train bullettrain_front"), ([0x1f32f], "burrito"), ([0x1f68c], "bus"),
   ([0x1f68f], "bus_stop busstop"), ([0x1f464], "bust_in_silhouette"),
   ([0x1f465], "busts_in_silhouette"), ([0x1f9c8], "butter"), ([0x1f98b], "butterfly"),
   ([0x1f335], "cactus"), ([0x1f4c6], "calendar tear-off_calendar"), ([0x1f919], "call_me_hand"),
   ([0x1f919, 0x1f3ff], "call_me_hand_dark_skin_tone"),
   ([0x1f919, 0x1f3fb], "call_me_hand_light_skin_tone"),
   ([0x1f919, 0x1f3fe], "call_me_hand_medium-dark_skin_tone"),
   ([0x1f919, 0x1f3fc], "call_me_hand_medium-light_skin_tone"),
   ([0x1f919, 0x1f3fd], "call_me_hand_medium_skin_tone"), ([0x1f42b], "camel two-hump_camel"),
   ([0x1f4f7], "camera"), ([0x1f4f8], "camera_with_flash"), ([0x1f3d5], "camping"),
   ([0x1f56f], "candle"), ([0x1f36c], "candy"), ([0x1f96b], "canned_food"), ([0x1f6f6], "canoe"),
   ([0x1f5c3], "card_file_box"), ([0x1f4c7], "card_index"), ([0x1f5c2], "card_index_dividers"),
   ([0x1f3a0], "carousel_horse"), ([0x1f38f], "carp_streamer flags"), ([0x1f955], "carrot"),
   ([0x1f3f0], "castle european_castle"), ([0x1f431], "cat cat_face"),
   ([0x1f639], "cat_face_with_tears_of_joy joy_cat"),
   ([0x1f63c], "cat_face_with_wry_smile smirk_cat"), ([0x26d3], "chains"), ([0x1fa91], "chair"),
   ([0x1f4c9], "chart_decreasing chart_with_downwards_trend"),
   ([0x1f4c8], "chart_increasing chart_with_upwards_trend"),
   ([0x1f4b9], "chart_increasing_with_yen chart"), ([0x1f9c0], "cheese_wedge"),
   ([0x1f3c1], "chequered_flag checkered_flag"), ([0x1f352], "cherries"),
   ([0x1f338], "cherry_blossom"), ([0x265f], "chess_pawn"), ([0x1f330], "chestnut"),
   ([0x1f414], "chicken"), ([0x1f9d2], "child"), ([0x1f9d2, 0x1f3ff], "child_dark_skin_tone"),
   ([0x1f9d2, 0x1f3fb], "child_light_skin_tone"),
   ([0x1f9d2, 0x1f3fe], "child_medium-dark_skin_tone"),
   ([0x1f9d2, 0x1f3fc], "child_medium-light_skin_tone"),
   ([0x1f9d2, 0x1f3fd], "child_medium_skin_tone"), ([0x1f6b8], "children_crossing"),
   ([0x1f43f], "chipmunk"), ([0x1f36b], "chocolate_bar"), ([0x1f962], "chopsticks"),
   ([0x26ea], "church"), ([0x1f6ac], "cigarette smoking"), ([0x1f3a6], "cinema"),
   ([0x24c2], "circled_m m"), ([0x1f3aa], "circus_tent"), ([0x1f3d9], "cityscape"),
   ([0x1f306], "cityscape_at_dusk city_sunset"), ([0x1f5dc], "clamp compression"),
   ([0x1f3ac], "clapper_board clapper"), ([0x1f44f], "clapping_hands clap"),
   ([0x1f44f, 0x1f3ff], "clapping_hands_dark_skin_tone"),
   ([0x1f44f, 0x1f3fb], "clapping_hands_light_skin_tone"),
   ([0x1f44f, 0x1f3fe], "clapping_hands_medium-dark_skin_tone"),
   ([0x1f44f, 0x1f3fc], "clapping_hands_medium-light_skin_tone"),
   ([0x1f44f, 0x1f3fd], "clapping_hands_medium_skin_tone"), ([0x1f3db], "classical_building"),
   ([0x1f37b], "clinking_beer_mugs beers"), ([0x1f942], "clinking_glasses"),
   ([0x1f4cb], "clipboard"), ([0x1f503], "clockwise_vertical_arrows arrows_clockwise"),
   ([0x1f4d5], "closed_book"), ([0x1f4ea], "closed_mailbox_with_lowered_flag mailbox_closed"),
   ([0x1f4eb], "closed_mailbox_with_raised_flag mailbox"), ([0x1f302], "closed_umbrella"),
   ([0x2601], "cloud"), ([0x1f329], "cloud_with_lightning"),
   ([0x26c8], "cloud_with_lightning_and_rain thunder_cloud_and_rain"),
   ([0x1f327], "cloud_with_rain"), ([0x1f328], "cloud_with_snow"), ([0x1f921], "clown_face"),
   ([0x2663], "club_suit clubs"), ([0x1f45d], "clutch_bag pouch"), ([0x1f9e5], "coat"),
   ([0x1f378], "cocktail_glass cocktail"), ([0x1f965], "coconut"), ([0x26b0], "coffin"),
   ([0x1f976], "cold_face"), ([0x1f4a5], "collision boom"), ([0x2604], "comet"),
   ([0x1f9ed], "compass"), ([0x1f4bd], "computer_disk minidisc"),
   ([0x1f5b1], "computer_mouse three_button_mouse"), ([0x1f38a], "confetti_ball"),
   ([0x1f616], "confounded_face confounded"), ([0x1f615], "confused_face confused"),
   ([0x1f6a7], "construction"), ([0x1f477], "construction_worker"),
   ([0x1f477, 0x1f3ff], "construction_worker_dark_skin_tone"),
   ([0x1f477, 0x1f3fb], "construction_worker_light_skin_tone"),
   ([0x1f477, 0x1f3fe], "construction_worker_medium-dark_skin_tone"),
   ([0x1f477, 0x1f3fc], "construction_worker_medium-light_skin_tone"),
   ([0x1f477, 0x1f3fd], "construction_worker_medium_skin_tone"), ([0x1f39b], "control_knobs"),
   ([0x1f3ea], "convenience_store"), ([0x1f35a], "cooked_rice rice"), ([0x1f36a], "cookie"),
   ([0x1f373], "cooking egg"), ([0xa9], "copyright"), ([0x1f6cb], "couch_and_lamp"),
   ([0x1f504], "counterclockwise_arrows_button arrows_counterclockwise"),
   ([0x1f491], "couple_with_heart"),
   ([0x1f468, 0x200d, 0x2764, 0xfe0f, 0x200d, 0x1f468], "couple_with_heart_man_man"),
   ([0x1f469, 0x200d, 0x2764, 0xfe0f, 0x200d, 0x1f468], "couple_with_heart_woman_man"),
   ([0x1f469, 0x200d, 0x2764, 0xfe0f, 0x200d, 0x1f469], "couple_with_heart_woman_woman"),
   ([0x1f42e], "cow cow_face"), ([0x1f920], "cowboy_hat_face"), ([0x1f980], "crab"),
   ([0x1f58d], "crayon lower_left_crayon"), ([0x1f4b3], "credit_card"),
   ([0x1f319], "crescent_moon"), ([0x1f997], "cricket"),
   ([0x1f3cf], "cricket_game cricket_bat_and_ball"), ([0x1f40a], "crocodile"),
   ([0x1f950], "croissant"), ([0x274c], "cross_mark x"),
   ([0x274e], "cross_mark_button negative_squared_cross_mark"), ([0x1f91e], "crossed_fingers"),
   ([0x1f91e, 0x1f3ff], "crossed_fingers_dark_skin_tone"),
   ([0x1f91e, 0x1f3fb], "crossed_fingers_light_skin_tone"),
   ([0x1f91e, 0x1f3fe], "crossed_fingers_medium-dark_skin_tone"),
   ([0x1f91e, 0x1f3fc], "crossed_fingers_medium-light_skin_tone"),
   ([0x1f91e, 0x1f3fd], "crossed_fingers_medium_skin_tone"), ([0x1f38c], "crossed_flags"),
   ([0x2694], "crossed_swords"), ([0x1f451], "crown"), ([0x1f63f], "crying_cat_face"),
   ([0x1f622], "crying_face cry"), ([0x1f52e], "crystal_ball"), ([0x1f952], "cucumber"),
   ([0x1f9c1], "cupcake"), ([0x1f964], "cup_with_straw"), ([0x1f94c], "curling_stone"),
   ([0x1f9b1], "curly_hair"), ([0x1f468, 0x200d, 0x1f9b1], "curly-haired_man"),
   ([0x1f469, 0x200d, 0x1f9b1], "curly-haired_woman"), ([0x27b0], "curly_loop"),
   ([0x1f4b1], "currency_exchange"), ([0x1f35b], "curry_rice curry"), ([0x1f36e], "custard"),
   ([0x1f6c3], "customs"), ([0x1f969], "cut_of_meat"), ([0x1f300], "cyclone"),
   ([0x1f5e1], "dagger dagger_knife"), ([0x1f361], "dango"), ([0x1f4a8], "dashing_away dash"),
   ([0x1f9cf], "deaf_person"), ([0x1f333], "deciduous_tree"), ([0x1f98c], "deer"),
   ([0x1f69a], "delivery_truck truck"), ([0x1f3ec], "department_store"),
   ([0x1f3da], "derelict_house derelict_house_building"), ([0x1f3dc], "desert"),
   ([0x1f3dd], "desert_island"), ([0x1f5a5], "desktop_computer"),
   ([0x1f575], "detective sleuth_or_spy"), ([0x1f575, 0x1f3ff], "detective_dark_skin_tone"),
   ([0x1f575, 0x1f3fb], "detective_light_skin_tone"),
   ([0x1f575, 0x1f3fe], "detective_medium-dark_skin_tone"),
   ([0x1f575, 0x1f3fc], "detective_medium-light_skin_tone"),
   ([0x1f575, 0x1f3fd], "detective_medium_skin_tone"), ([0x2666], "diamond_suit diamonds"),
   ([0x1f4a0], "diamond_with_a_dot diamond_shape_with_a_dot_inside"),
   ([0x1f505], "dim_button low_brightness"), ([0x1f3af], "direct_hit dart"),
   ([0x1f61e], "disappointed_face disappointed"), ([0x1f93f], "diving_mask"),
   ([0x1fa94], "diya_lamp"), ([0x1f4ab], "dizzy"), ([0x1f635], "dizzy_face"), ([0x1f9ec], "dna"),
   ([0x1f436], "dog dog_face"), ([0x1f4b5], "dollar_banknote dollar"),
   ([0x1f42c], "dolphin flipper"), ([0x1f6aa], "door"),
   ([0x1f52f], "dotted_six-pointed_star six_pointed_star"), ([0x27bf], "double_curly_loop loop"),
   ([0x203c], "double_exclamation_mark bangbang"), ([0x1f369], "doughnut"),
   ([0x1f54a], "dove dove_of_peace"), ([0x2199], "down-left_arrow arrow_lower_left"),
   ([0x2198], "down-right_arrow arrow_lower_right"), ([0x2b07], "down_arrow arrow_down"),
   ([0x1f613], "downcast_face_with_sweat sweat"), ([0x1f53d], "downwards_button arrow_down_small"),
   ([0x1f409], "dragon"), ([0x1f432], "dragon_face"), ([0x1f457], "dress"),
   ([0x1f924], "drooling_face"), ([0x1fa78], "drop_of_blood"), ([0x1f4a7], "droplet"),
   ([0x1f941], "drum"), ([0x1f986], "duck"), ([0x1f95f], "dumpling"), ([0x1f4c0], "dvd"),
   ([0x1f4e7], "e-mail e__mail"), ([0x1f985], "eagle"), ([0x1f442], "ear"),
   ([0x1f442, 0x1f3ff], "ear_dark_skin_tone"), ([0x1f442, 0x1f3fb], "ear_light_skin_tone"),
   ([0x1f442, 0x1f3fe], "ear_medium-dark_skin_tone"),
   ([0x1f442, 0x1f3fc], "ear_medium-light_skin_tone"), ([0x1f442, 0x1f3fd], "ear_medium_skin_tone"),
   ([0x1f33d], "ear_of_corn corn"), ([0x1f9bb], "ear_with_hearing_aid"), ([0x1f346], "eggplant"),
   ([0x2734], "eight-pointed_star eight_pointed_black_star"),
   ([0x2733], "eight-spoked_asterisk eight_spoked_asterisk"), ([0x1f563], "eight-thirty clock830"),
   ([0x1f557], "eight_o’clock clock8"), ([0x23cf], "eject_button eject_symbol"),
   ([0x1f50c], "electric_plug"), ([0x1f418], "elephant"), ([0x1f566], "eleven-thirty clock1130"),
   ([0x1f55a], "eleven_o’clock clock11"), ([0x1f9dd], "elf"),
   ([0x1f9dd, 0x1f3ff], "elf_dark_skin_tone"), ([0x1f9dd, 0x1f3fb], "elf_light_skin_tone"),
   ([0x1f9dd, 0x1f3fe], "elf_medium-dark_skin_tone"),
   ([0x1f9dd, 0x1f3fc], "elf_medium-light_skin_tone"), ([0x1f9dd, 0x1f3fd], "elf_medium_skin_tone"),
   ([0x2709], "envelope email"), ([0x1f4e9], "envelope_with_arrow"),
   ([0x1f4b6], "euro_banknote euro"), ([0x1f332], "evergreen_tree"), ([0x1f411], "ewe sheep"),
   ([0x2757], "exclamation_mark exclamation heavy_exclamation_mark"),
   ([0x2049], "exclamation_question_mark interrobang"), ([0x1f92f], "exploding_head"),
   ([0x1f611], "expressionless_face expressionless"), ([0x1f441], "eye"),
   ([0x1f441, 0xfe0f, 0x200d, 0x1f5e8, 0xfe0f], "eye_in_speech_bubble"), ([0x1f440], "eyes"),
   ([0x1f618], "face_blowing_a_kiss kissing_heart"), ([0x1f60b], "face_savoring_food yum"),
   ([0x1f631], "face_screaming_in_fear scream"), ([0x1f92e], "face_vomiting"),
   ([0x1f92d], "face_with_hand_over_mouth"),
   ([0x1f915], "face_with_head-bandage face_with_head__bandage"),
   ([0x1f637], "face_with_medical_mask mask"), ([0x1f9d0], "face_with_monocle"),
   ([0x1f62e], "face_with_open_mouth open_mouth"), ([0x1f928], "face_with_raised_eyebrow"),
   ([0x1f644], "face_with_rolling_eyes"), ([0x1f624], "face_with_steam_from_nose triumph"),
   ([0x1f92c], "face_with_symbols_on_mouth"), ([0x1f602], "face_with_tears_of_joy joy"),
   ([0x1f912], "face_with_thermometer"), ([0x1f61b], "face_with_tongue stuck_out_tongue"),
   ([0x1f636], "face_without_mouth no_mouth"), ([0x1f3ed], "factory"), ([0x1f9da], "fairy"),
   ([0x1f9da, 0x1f3ff], "fairy_dark_skin_tone"), ([0x1f9da, 0x1f3fb], "fairy_light_skin_tone"),
   ([0x1f9da, 0x1f3fe], "fairy_medium-dark_skin_tone"),
   ([0x1f9da, 0x1f3fc], "fairy_medium-light_skin_tone"),
   ([0x1f9da, 0x1f3fd], "fairy_medium_skin_tone"), ([0x1f9c6], "falafel"),
   ([0x1f342], "fallen_leaf"), ([0x1f46a], "family"),
   ([0x1f468, 0x200d, 0x1f466], "family_man_boy"),
   ([0x1f468, 0x200d, 0x1f466, 0x200d, 0x1f466], "family_man_boy_boy"),
   ([0x1f468, 0x200d, 0x1f467], "family_man_girl"),
   ([0x1f468, 0x200d, 0x1f467, 0x200d, 0x1f466], "family_man_girl_boy"),
   ([0x1f468, 0x200d, 0x1f467, 0x200d, 0x1f467], "family_man_girl_girl"),
   ([0x1f468, 0x200d, 0x1f468, 0x200d, 0x1f466], "family_man_man_boy"),
   ([0x1f468, 0x200d, 0x1f468, 0x200d, 0x1f466, 0x200d, 0x1f466], "family_man_man_boy_boy"),
   ([0x1f468, 0x200d, 0x1f468, 0x200d, 0x1f467], "family_man_man_girl"),
   ([0x1f468, 0x200d, 0x1f468, 0x200d, 0x1f467, 0x200d, 0x1f466], "family_man_man_girl_boy"),
   ([0x1f468, 0x200d, 0x1f468, 0x200d, 0x1f467, 0x200d, 0x1f467], "family_man_man_girl_girl"),
   ([0x1f468, 0x200d, 0x1f469, 0x200d, 0x1f466], "family_man_woman_boy"),
   ([0x1f468, 0x200d, 0x1f469, 0x200d, 0x1f466, 0x200d, 0x1f466], "family_man_woman_boy_boy"),
   ([0x1f468, 0x200d, 0x1f469, 0x200d, 0x1f467], "family_man_woman_girl"),
   ([0x1f468, 0x200d, 0x1f469, 0x200d, 0x1f467, 0x200d, 0x1f466], "family_man_woman_girl_boy"),
   ([0x1f468, 0x200d, 0x1f469, 0x200d, 0x1f467, 0x200d, 0x1f467], "family_man_woman_girl_girl"),
   ([0x1f469, 0x200d, 0x1f466], "family_woman_boy"),
   ([0x1f469, 0x200d, 0x1f466, 0x200d, 0x1f466], "family_woman_boy_boy"),
   ([0x1f469, 0x200d, 0x1f467], "family_woman_girl"),
   ([0x1f469, 0x200d, 0x1f467, 0x200d, 0x1f466], "family_woman_girl_boy"),
   ([0x1f469, 0x200d, 0x1f467, 0x200d, 0x1f467], "family_woman_girl_girl"),
   ([0x1f469, 0x200d, 0x1f469, 0x200d, 0x1f466], "family_woman_woman_boy"),
   ([0x1f469, 0x200d, 0x1f469, 0x200d, 0x1f466, 0x200d, 0x1f466], "family_woman_woman_boy_boy"),
   ([0x1f469, 0x200d, 0x1f469, 0x200d, 0x1f467], "family_woman_woman_girl"),
   ([0x1f469, 0x200d, 0x1f469, 0x200d, 0x1f467, 0x200d, 0x1f466], "family_woman_woman_girl_boy"),
   ([0x1f469, 0x200d, 0x1f469, 0x200d, 0x1f467, 0x200d, 0x1f467], "family_woman_woman_girl_girl"),
   ([0x23e9], "fast-forward_button fast_forward"), ([0x23ec], "fast_down_button arrow_double_down"),
   ([0x23ea], "fast_reverse_button rewind"), ([0x23eb], "fast_up_button arrow_double_up"),
   ([0x1f4e0], "fax_machine fax"), ([0x1f628], "fearful_face fearful"), ([0x2640], "female_sign"),
   ([0x1f3a1], "ferris_wheel"), ([0x26f4], "ferry"),
   ([0x1f3d1], "field_hockey field_hockey_stick_and_ball"), ([0x1f5c4], "file_cabinet"),
   ([0x1f4c1], "file_folder"), ([0x1f39e], "film_frames"), ([0x1f4fd], "film_projector"),
   ([0x1f525], "fire"), ([0x1f9ef], "fire_extinguisher"), ([0x1f9e8], "firecracker"),
   ([0x1f692], "fire_engine"), ([0x1f386], "fireworks"), ([0x1f313], "first_quarter_moon"),
   ([0x1f31b], "first_quarter_moon_face first_quarter_moon_with_face"), ([0x1f41f], "fish"),
   ([0x1f365], "fish_cake_with_swirl fish_cake"), ([0x1f3a3], "fishing_pole fishing_pole_and_fish"),
   ([0x1f560], "five-thirty clock530"), ([0x1f554], "five_o’clock clock5"),
   ([0x26f3], "flag_in_hole golf"), ([0x1f9a9], "flamingo"), ([0x1f526], "flashlight"),
   ([0x1f97f], "flat_shoe"), ([0x269c], "fleur-de-lis fleur__de__lis"),
   ([0x1f4aa], "flexed_biceps muscle"), ([0x1f4aa, 0x1f3ff], "flexed_biceps_dark_skin_tone"),
   ([0x1f4aa, 0x1f3fb], "flexed_biceps_light_skin_tone"),
   ([0x1f4aa, 0x1f3fe], "flexed_biceps_medium-dark_skin_tone"),
   ([0x1f4aa, 0x1f3fc], "flexed_biceps_medium-light_skin_tone"),
   ([0x1f4aa, 0x1f3fd], "flexed_biceps_medium_skin_tone"), ([0x1f4be], "floppy_disk"),
   ([0x1f3b4], "flower_playing_cards"), ([0x1f633], "flushed_face flushed"),
   ([0x1f94f], "flying_disc"), ([0x1f6f8], "flying_saucer"), ([0x1f32b], "fog"),
   ([0x1f301], "foggy"), ([0x1f64f], "folded_hands pray"),
   ([0x1f64f, 0x1f3ff], "folded_hands_dark_skin_tone"),
   ([0x1f64f, 0x1f3fb], "folded_hands_light_skin_tone"),
   ([0x1f64f, 0x1f3fe], "folded_hands_medium-dark_skin_tone"),
   ([0x1f64f, 0x1f3fc], "folded_hands_medium-light_skin_tone"),
   ([0x1f64f, 0x1f3fd], "folded_hands_medium_skin_tone"), ([0x1f9b6], "foot"),
   ([0x1f463], "footprints"), ([0x1f374], "fork_and_knife"),
   ([0x1f37d], "fork_and_knife_with_plate"), ([0x1f960], "fortune_cookie"), ([0x26f2], "fountain"),
   ([0x1f58b], "fountain_pen lower_left_fountain_pen"), ([0x1f55f], "four-thirty clock430"),
   ([0x1f340], "four_leaf_clover"), ([0x1f553], "four_o’clock clock4"), ([0x1f98a], "fox_face"),
   ([0x1f5bc], "framed_picture frame_with_picture"), ([0x1f35f], "french_fries fries"),
   ([0x1f364], "fried_shrimp"), ([0x1f438], "frog_face frog"),
   ([0x1f425], "front-facing_baby_chick hatched_chick"),
   ([0x2639], "frowning_face white_frowning_face"),
   ([0x1f626], "frowning_face_with_open_mouth frowning"), ([0x26fd], "fuel_pump fuelpump"),
   ([0x1f315], "full_moon"), ([0x1f31d], "full_moon_face full_moon_with_face"),
   ([0x26b1], "funeral_urn"), ([0x1f3b2], "game_die"), ([0x1f9c4], "garlic"), ([0x2699], "gear"),
   ([0x1f48e], "gem_stone gem"), ([0x1f9de], "genie"), ([0x1f47b], "ghost"), ([0x1f992], "giraffe"),
   ([0x1f467], "girl"), ([0x1f467, 0x1f3ff], "girl_dark_skin_tone"),
   ([0x1f467, 0x1f3fb], "girl_light_skin_tone"), ([0x1f467, 0x1f3fe], "girl_medium-dark_skin_tone"),
   ([0x1f467, 0x1f3fc], "girl_medium-light_skin_tone"),
   ([0x1f467, 0x1f3fd], "girl_medium_skin_tone"), ([0x1f95b], "glass_of_milk"),
   ([0x1f453], "glasses eyeglasses"), ([0x1f30e], "globe_showing_americas earth_americas"),
   ([0x1f30f], "globe_showing_asia-australia earth_asia"),
   ([0x1f30d], "globe_showing_europe-africa earth_africa"), ([0x1f310], "globe_with_meridians"),
   ([0x1f9e4], "gloves"), ([0x1f31f], "glowing_star star2"), ([0x1f945], "goal_net"),
   ([0x1f410], "goat"), ([0x1f47a], "goblin japanese_goblin"), ([0x1f97d], "goggles"),
   ([0x1f98d], "gorilla"), ([0x1f393], "graduation_cap mortar_board"), ([0x1f347], "grapes"),
   ([0x1f34f], "green_apple"), ([0x1f4d7], "green_book"), ([0x1f7e2], "green_circle"),
   ([0x1f49a], "green_heart"), ([0x1f957], "green_salad"), ([0x1f7e9], "green_square"),
   ([0x1f62c], "grimacing_face grimacing"), ([0x1f63a], "grinning_cat_face smiley_cat"),
   ([0x1f638], "grinning_cat_face_with_smiling_eyes smile_cat"),
   ([0x1f600], "grinning_face grinning"), ([0x1f603], "grinning_face_with_big_eyes smiley"),
   ([0x1f604], "grinning_face_with_smiling_eyes smile"),
   ([0x1f605], "grinning_face_with_sweat sweat_smile"),
   ([0x1f606], "grinning_squinting_face laughing satisfied"),
   ([0x1f497], "growing_heart heartpulse"), ([0x1f482], "guard guardsman"),
   ([0x1f482, 0x1f3ff], "guard_dark_skin_tone"), ([0x1f482, 0x1f3fb], "guard_light_skin_tone"),
   ([0x1f482, 0x1f3fe], "guard_medium-dark_skin_tone"),
   ([0x1f482, 0x1f3fc], "guard_medium-light_skin_tone"),
   ([0x1f482, 0x1f3fd], "guard_medium_skin_tone"), ([0x1f9ae], "guide_dog"), ([0x1f3b8], "guitar"),
   ([0x1f354], "hamburger"), ([0x1f528], "hammer"), ([0x2692], "hammer_and_pick"),
   ([0x1f6e0], "hammer_and_wrench"), ([0x1f439], "hamster_face hamster"),
   ([0x1f590], "hand_with_fingers_splayed raised_hand_with_fingers_splayed"),
   ([0x1f590, 0x1f3ff], "hand_with_fingers_splayed_dark_skin_tone"),
   ([0x1f590, 0x1f3fb], "hand_with_fingers_splayed_light_skin_tone"),
   ([0x1f590, 0x1f3fe], "hand_with_fingers_splayed_medium-dark_skin_tone"),
   ([0x1f590, 0x1f3fc], "hand_with_fingers_splayed_medium-light_skin_tone"),
   ([0x1f590, 0x1f3fd], "hand_with_fingers_splayed_medium_skin_tone"), ([0x1f45c], "handbag"),
   ([0x1f91d], "handshake"), ([0x1f423], "hatching_chick"), ([0x1f3a7], "headphone headphones"),
   ([0x1f649], "hear-no-evil_monkey hear_no_evil"), ([0x1f49f], "heart_decoration"),
   ([0x2665], "heart_suit hearts"), ([0x1f498], "heart_with_arrow cupid"),
   ([0x1f49d], "heart_with_ribbon gift_heart"), ([0x2714], "heavy_check_mark"),
   ([0x2797], "heavy_division_sign"), ([0x1f4b2], "heavy_dollar_sign"),
   ([0x2763], "heavy_heart_exclamation heavy_heart_exclamation_mark_ornament"),
   ([0x2b55], "heavy_large_circle o"), ([0x2796], "heavy_minus_sign"),
   ([0x2716], "heavy_multiplication_x"), ([0x2795], "heavy_plus_sign"), ([0x1f994], "hedgehog"),
   ([0x1f681], "helicopter"), ([0x1f33f], "herb"), ([0x1f33a], "hibiscus"),
   ([0x1f460], "high-heeled_shoe high_heel"), ([0x1f684], "high-speed_train bullettrain_side"),
   ([0x26a1], "high_voltage zap"), ([0x1f97e], "hiking_boot"), ([0x1f6d5], "hindu_temple"),
   ([0x1f99b], "hippopotamus"), ([0x1f573], "hole"), ([0x1f36f], "honey_pot"),
   ([0x1f41d], "honeybee bee"), ([0x1f6a5], "horizontal_traffic_light traffic_light"),
   ([0x1f434], "horse horse_face"), ([0x1f3c7], "horse_racing"),
   ([0x1f3c7, 0x1f3ff], "horse_racing_dark_skin_tone"),
   ([0x1f3c7, 0x1f3fb], "horse_racing_light_skin_tone"),
   ([0x1f3c7, 0x1f3fe], "horse_racing_medium-dark_skin_tone"),
   ([0x1f3c7, 0x1f3fc], "horse_racing_medium-light_skin_tone"),
   ([0x1f3c7, 0x1f3fd], "horse_racing_medium_skin_tone"), ([0x1f3e5], "hospital"),
   ([0x2615], "hot_beverage coffee"), ([0x1f32d], "hot_dog"), ([0x1f975], "hot_face"),
   ([0x1f336], "hot_pepper"), ([0x2668], "hot_springs hotsprings"), ([0x1f3e8], "hotel"),
   ([0x231b], "hourglass_done hourglass"), ([0x23f3], "hourglass_not_done hourglass_flowing_sand"),
   ([0x1f3e0], "house"), ([0x1f3e1], "house_with_garden"), ([0x1f3d8], "houses house_buildings"),
   ([0x1f917], "hugging_face"), ([0x1f4af], "hundred_points 100"),
   ([0x1f62f], "hushed_face hushed"), ([0x1f9ca], "ice"), ([0x1f368], "ice_cream"),
   ([0x1f3d2], "ice_hockey ice_hockey_stick_and_puck"), ([0x26f8], "ice_skate"),
   ([0x1f4e5], "inbox_tray"), ([0x1f4e8], "incoming_envelope"),
   ([0x261d], "index_pointing_up point_up"),
   ([0x261d, 0x1f3ff], "index_pointing_up_dark_skin_tone"),
   ([0x261d, 0x1f3fb], "index_pointing_up_light_skin_tone"),
   ([0x261d, 0x1f3fe], "index_pointing_up_medium-dark_skin_tone"),
   ([0x261d, 0x1f3fc], "index_pointing_up_medium-light_skin_tone"),
   ([0x261d, 0x1f3fd], "index_pointing_up_medium_skin_tone"), ([0x267e], "infinity"),
   ([0x2139], "information information_source"), ([0x1f524], "input_latin_letters abc"),
   ([0x1f521], "input_latin_lowercase abcd"), ([0x1f520], "input_latin_uppercase capital_abcd"),
   ([0x1f522], "input_numbers 1234"), ([0x1f523], "input_symbols symbols"),
   ([0x1f383], "jack-o-lantern jack_o_lantern"), ([0x1f456], "jeans"), ([0x1f9e9], "jigsaw"),
   ([0x1f0cf], "joker black_joker"), ([0x1f579], "joystick"), ([0x1f54b], "kaaba"),
   ([0x1f998], "kangaroo"), ([0x1f511], "key"), ([0x2328], "keyboard"),
   ([0x23, 0xfe0f, 0x20e3], "keycap_#"), ([0x2a, 0xfe0f, 0x20e3], "keycap_*"),
   ([0x30, 0xfe0f, 0x20e3], "keycap_0 zero"), ([0x31, 0xfe0f, 0x20e3], "keycap_1 one"),
   ([0x1f51f], "keycap_10 ten"), ([0x32, 0xfe0f, 0x20e3], "keycap_2 two"),
   ([0x33, 0xfe0f, 0x20e3], "keycap_3 three"), ([0x34, 0xfe0f, 0x20e3], "keycap_4 four"),
   ([0x35, 0xfe0f, 0x20e3], "keycap_5 five"), ([0x36, 0xfe0f, 0x20e3], "keycap_6 six"),
   ([0x37, 0xfe0f, 0x20e3], "keycap_7 seven"), ([0x38, 0xfe0f, 0x20e3], "keycap_8 eight"),
   ([0x39, 0xfe0f, 0x20e3], "keycap_9 nine"), ([0x1f6f4], "kick_scooter"), ([0x1f458], "kimono"),
   ([0x1f48b], "kiss kiss_mark"),
   ([0x1f468, 0x200d, 0x2764, 0xfe0f, 0x200d, 0x1f48b, 0x200d, 0x1f468], "kiss_man_man"),
   ([0x1f469, 0x200d, 0x2764, 0xfe0f, 0x200d, 0x1f48b, 0x200d, 0x1f468], "kiss_woman_man"),
   ([0x1f469, 0x200d, 0x2764, 0xfe0f, 0x200d, 0x1f48b, 0x200d, 0x1f469], "kiss_woman_woman"),
   ([0x1f63d], "kissing_cat_face kissing_cat"), ([0x1f617], "kissing_face kissing"),
   ([0x1f61a], "kissing_face_with_closed_eyes kissing_closed_eyes"),
   ([0x1f619], "kissing_face_with_smiling_eyes kissing_smiling_eyes"),
   ([0x1f52a], "kitchen_knife hocho knife"), ([0x1fa81], "kite"), ([0x1f95d], "kiwi_fruit"),
   ([0x1f428], "koala"), ([0x1f97c], "lab_coat"), ([0x1f3f7], "label"), ([0x1f94d], "lacrosse"),
   ([0x1f41e], "lady_beetle beetle"), ([0x1f4bb], "laptop_computer computer"),
   ([0x1f537], "large_blue_diamond"), ([0x1f536], "large_orange_diamond"),
   ([0x1f317], "last_quarter_moon"),
   ([0x1f31c], "last_quarter_moon_face last_quarter_moon_with_face"),
   ([0x23ee], "last_track_button black_left__pointing_double_triangle_with_vertical_bar"),
   ([0x271d], "latin_cross"), ([0x1f343], "leaf_fluttering_in_wind leaves"),
   ([0x1f96c], "leafy_green"), ([0x1f4d2], "ledger"), ([0x1f91b], "left-facing_fist"),
   ([0x1f91b, 0x1f3ff], "left-facing_fist_dark_skin_tone"),
   ([0x1f91b, 0x1f3fb], "left-facing_fist_light_skin_tone"),
   ([0x1f91b, 0x1f3fe], "left-facing_fist_medium-dark_skin_tone"),
   ([0x1f91b, 0x1f3fc], "left-facing_fist_medium-light_skin_tone"),
   ([0x1f91b, 0x1f3fd], "left-facing_fist_medium_skin_tone"),
   ([0x2194], "left-right_arrow left_right_arrow"), ([0x2b05], "left_arrow arrow_left"),
   ([0x21aa], "left_arrow_curving_right arrow_right_hook"), ([0x1f6c5], "left_luggage"),
   ([0x1f5e8], "left_speech_bubble"), ([0x1f9b5], "leg"), ([0x1f34b], "lemon"),
   ([0x1f406], "leopard"), ([0x1f39a], "level_slider"), ([0x1f4a1], "light_bulb bulb"),
   ([0x1f688], "light_rail"), ([0x1f517], "link"), ([0x1f587], "linked_paperclips"),
   ([0x1f981], "lion_face"), ([0x1f484], "lipstick"),
   ([0x1f6ae], "litter_in_bin_sign put_litter_in_its_place"), ([0x1f98e], "lizard"),
   ([0x1f999], "llama"), ([0x1f99e], "lobster"), ([0x1f512], "locked lock"),
   ([0x1f510], "locked_with_key closed_lock_with_key"),
   ([0x1f50f], "locked_with_pen lock_with_ink_pen"), ([0x1f682], "locomotive steam_locomotive"),
   ([0x1f36d], "lollipop"), ([0x1f9f4], "lotion_bottle"), ([0x1f62d], "loudly_crying_face sob"),
   ([0x1f4e2], "loudspeaker"), ([0x1f91f], "love-you_gesture"),
   ([0x1f91f, 0x1f3ff], "love-you_gesture_dark_skin_tone"),
   ([0x1f91f, 0x1f3fb], "love-you_gesture_light_skin_tone"),
   ([0x1f91f, 0x1f3fe], "love-you_gesture_medium-dark_skin_tone"),
   ([0x1f91f, 0x1f3fc], "love-you_gesture_medium-light_skin_tone"),
   ([0x1f91f, 0x1f3fd], "love-you_gesture_medium_skin_tone"), ([0x1f3e9], "love_hotel"),
   ([0x1f48c], "love_letter"), ([0x1f9f3], "luggage"), ([0x1f925], "lying_face"),
   ([0x1f9d9], "mage"), ([0x1f9d9, 0x1f3ff], "mage_dark_skin_tone"),
   ([0x1f9d9, 0x1f3fb], "mage_light_skin_tone"), ([0x1f9d9, 0x1f3fe], "mage_medium-dark_skin_tone"),
   ([0x1f9d9, 0x1f3fc], "mage_medium-light_skin_tone"),
   ([0x1f9d9, 0x1f3fd], "mage_medium_skin_tone"), ([0x1f9f2], "magnet"),
   ([0x1f50d], "magnifying_glass_tilted_left mag"),
   ([0x1f50e], "magnifying_glass_tilted_right mag_right"),
   ([0x1f004], "mahjong_red_dragon mahjong"), ([0x2642], "male_sign"), ([0x1f468], "man"),
   ([0x1f46b], "man_and_woman_holding_hands couple"), ([0x1f468, 0x200d, 0x1f3a8], "man_artist"),
   ([0x1f468, 0x1f3ff, 0x200d, 0x1f3a8], "man_artist_dark_skin_tone"),
   ([0x1f468, 0x1f3fb, 0x200d, 0x1f3a8], "man_artist_light_skin_tone"),
   ([0x1f468, 0x1f3fe, 0x200d, 0x1f3a8], "man_artist_medium-dark_skin_tone"),
   ([0x1f468, 0x1f3fc, 0x200d, 0x1f3a8], "man_artist_medium-light_skin_tone"),
   ([0x1f468, 0x1f3fd, 0x200d, 0x1f3a8], "man_artist_medium_skin_tone"),
   ([0x1f468, 0x200d, 0x1f680], "man_astronaut"),
   ([0x1f468, 0x1f3ff, 0x200d, 0x1f680], "man_astronaut_dark_skin_tone"),
   ([0x1f468, 0x1f3fb, 0x200d, 0x1f680], "man_astronaut_light_skin_tone"),
   ([0x1f468, 0x1f3fe, 0x200d, 0x1f680], "man_astronaut_medium-dark_skin_tone"),
   ([0x1f468, 0x1f3fc, 0x200d, 0x1f680], "man_astronaut_medium-light_skin_tone"),
   ([0x1f468, 0x1f3fd, 0x200d, 0x1f680], "man_astronaut_medium_skin_tone"),
   ([0x1f6b4, 0x200d, 0x2642, 0xfe0f], "man_biking"),
   ([0x1f6b4, 0x1f3ff, 0x200d, 0x2642, 0xfe0f], "man_biking_dark_skin_tone"),
   ([0x1f6b4, 0x1f3fb, 0x200d, 0x2642, 0xfe0f], "man_biking_light_skin_tone"),
   ([0x1f6b4, 0x1f3fe, 0x200d, 0x2642, 0xfe0f], "man_biking_medium-dark_skin_tone"),
   ([0x1f6b4, 0x1f3fc, 0x200d, 0x2642, 0xfe0f], "man_biking_medium-light_skin_tone"),
   ([0x1f6b4, 0x1f3fd, 0x200d, 0x2642, 0xfe0f], "man_biking_medium_skin_tone"),
   ([0x26f9, 0xfe0f, 0x200d, 0x2642, 0xfe0f], "man_bouncing_ball"),
   ([0x26f9, 0x1f3ff, 0x200d, 0x2642, 0xfe0f], "man_bouncing_ball_dark_skin_tone"),
   ([0x26f9, 0x1f3fb, 0x200d, 0x2642, 0xfe0f], "man_bouncing_ball_light_skin_tone"),
   ([0x26f9, 0x1f3fe, 0x200d, 0x2642, 0xfe0f], "man_bouncing_ball_medium-dark_skin_tone"),
   ([0x26f9, 0x1f3fc, 0x200d, 0x2642, 0xfe0f], "man_bouncing_ball_medium-light_skin_tone"),
   ([0x26f9, 0x1f3fd, 0x200d, 0x2642, 0xfe0f], "man_bouncing_ball_medium_skin_tone"),
   ([0x1f647, 0x200d, 0x2642, 0xfe0f], "man_bowing"),
   ([0x1f647, 0x1f3ff, 0x200d, 0x2642, 0xfe0f], "man_bowing_dark_skin_tone"),
   ([0x1f647, 0x1f3fb, 0x200d, 0x2642, 0xfe0f], "man_bowing_light_skin_tone"),
   ([0x1f647, 0x1f3fe, 0x200d, 0x2642, 0xfe0f], "man_bowing_medium-dark_skin_tone"),
   ([0x1f647, 0x1f3fc, 0x200d, 0x2642, 0xfe0f], "man_bowing_medium-light_skin_tone"),
   ([0x1f647, 0x1f3fd, 0x200d, 0x2642, 0xfe0f], "man_bowing_medium_skin_tone"),
   ([0x1f938, 0x200d, 0x2642, 0xfe0f], "man_cartwheeling"),
   ([0x1f938, 0x1f3ff, 0x200d, 0x2642, 0xfe0f], "man_cartwheeling_dark_skin_tone"),
   ([0x1f938, 0x1f3fb, 0x200d, 0x2642, 0xfe0f], "man_cartwheeling_light_skin_tone"),
   ([0x1f938, 0x1f3fe, 0x200d, 0x2642, 0xfe0f], "man_cartwheeling_medium-dark_skin_tone"),
   ([0x1f938, 0x1f3fc, 0x200d, 0x2642, 0xfe0f], "man_cartwheeling_medium-light_skin_tone"),
   ([0x1f938, 0x1f3fd, 0x200d, 0x2642, 0xfe0f], "man_cartwheeling_medium_skin_tone"),
   ([0x1f9d7, 0x200d, 0x2642, 0xfe0f], "man_climbing"),
   ([0x1f9d7, 0x1f3ff, 0x200d, 0x2642, 0xfe0f], "man_climbing_dark_skin_tone"),
   ([0x1f9d7, 0x1f3fb, 0x200d, 0x2642, 0xfe0f], "man_climbing_light_skin_tone"),
   ([0x1f9d7, 0x1f3fe, 0x200d, 0x2642, 0xfe0f], "man_climbing_medium-dark_skin_tone"),
   ([0x1f9d7, 0x1f3fc, 0x200d, 0x2642, 0xfe0f], "man_climbing_medium-light_skin_tone"),
   ([0x1f9d7, 0x1f3fd, 0x200d, 0x2642, 0xfe0f], "man_climbing_medium_skin_tone"),
   ([0x1f477, 0x200d, 0x2642, 0xfe0f], "man_construction_worker"),
   ([0x1f477, 0x1f3ff, 0x200d, 0x2642, 0xfe0f], "man_construction_worker_dark_skin_tone"),
   ([0x1f477, 0x1f3fb, 0x200d, 0x2642, 0xfe0f], "man_construction_worker_light_skin_tone"),
   ([0x1f477, 0x1f3fe, 0x200d, 0x2642, 0xfe0f], "man_construction_worker_medium-dark_skin_tone"),
   ([0x1f477, 0x1f3fc, 0x200d, 0x2642, 0xfe0f], "man_construction_worker_medium-light_skin_tone"),
   ([0x1f477, 0x1f3fd, 0x200d, 0x2642, 0xfe0f], "man_construction_worker_medium_skin_tone"),
   ([0x1f468, 0x200d, 0x1f373], "man_cook"),
   ([0x1f468, 0x1f3ff, 0x200d, 0x1f373], "man_cook_dark_skin_tone"),
   ([0x1f468, 0x1f3fb, 0x200d, 0x1f373], "man_cook_light_skin_tone"),
   ([0x1f468, 0x1f3fe, 0x200d, 0x1f373], "man_cook_medium-dark_skin_tone"),
   ([0x1f468, 0x1f3fc, 0x200d, 0x1f373], "man_cook_medium-light_skin_tone"),
   ([0x1f468, 0x1f3fd, 0x200d, 0x1f373], "man_cook_medium_skin_tone"), ([0x1f57a], "man_dancing"),
   ([0x1f57a, 0x1f3ff], "man_dancing_dark_skin_tone"),
   ([0x1f57a, 0x1f3fb], "man_dancing_light_skin_tone"),
   ([0x1f57a, 0x1f3fe], "man_dancing_medium-dark_skin_tone"),
   ([0x1f57a, 0x1f3fc], "man_dancing_medium-light_skin_tone"),
   ([0x1f57a, 0x1f3fd], "man_dancing_medium_skin_tone"), ([0x1f468, 0x1f3ff], "man_dark_skin_tone"),
   ([0x1f575, 0xfe0f, 0x200d, 0x2642, 0xfe0f], "man_detective"),
   ([0x1f575, 0x1f3ff, 0x200d, 0x2642, 0xfe0f], "man_detective_dark_skin_tone"),
   ([0x1f575, 0x1f3fb, 0x200d, 0x2642, 0xfe0f], "man_detective_light_skin_tone"),
   ([0x1f575, 0x1f3fe, 0x200d, 0x2642, 0xfe0f], "man_detective_medium-dark_skin_tone"),
   ([0x1f575, 0x1f3fc, 0x200d, 0x2642, 0xfe0f], "man_detective_medium-light_skin_tone"),
   ([0x1f575, 0x1f3fd, 0x200d, 0x2642, 0xfe0f], "man_detective_medium_skin_tone"),
   ([0x1f9dd, 0x200d, 0x2642, 0xfe0f], "man_elf"),
   ([0x1f9dd, 0x1f3ff, 0x200d, 0x2642, 0xfe0f], "man_elf_dark_skin_tone"),
   ([0x1f9dd, 0x1f3fb, 0x200d, 0x2642, 0xfe0f], "man_elf_light_skin_tone"),
   ([0x1f9dd, 0x1f3fe, 0x200d, 0x2642, 0xfe0f], "man_elf_medium-dark_skin_tone"),
   ([0x1f9dd, 0x1f3fc, 0x200d, 0x2642, 0xfe0f], "man_elf_medium-light_skin_tone"),
   ([0x1f9dd, 0x1f3fd, 0x200d, 0x2642, 0xfe0f], "man_elf_medium_skin_tone"),
   ([0x1f926, 0x200d, 0x2642, 0xfe0f], "man_facepalming"),
   ([0x1f926, 0x1f3ff, 0x200d, 0x2642, 0xfe0f], "man_facepalming_dark_skin_tone"),
   ([0x1f926, 0x1f3fb, 0x200d, 0x2642, 0xfe0f], "man_facepalming_light_skin_tone"),
   ([0x1f926, 0x1f3fe, 0x200d, 0x2642, 0xfe0f], "man_facepalming_medium-dark_skin_tone"),
   ([0x1f926, 0x1f3fc, 0x200d, 0x2642, 0xfe0f], "man_facepalming_medium-light_skin_tone"),
   ([0x1f926, 0x1f3fd, 0x200d, 0x2642, 0xfe0f], "man_facepalming_medium_skin_tone"),
   ([0x1f468, 0x200d, 0x1f3ed], "man_factory_worker"),
   ([0x1f468, 0x1f3ff, 0x200d, 0x1f3ed], "man_factory_worker_dark_skin_tone"),
   ([0x1f468, 0x1f3fb, 0x200d, 0x1f3ed], "man_factory_worker_light_skin_tone"),
   ([0x1f468, 0x1f3fe, 0x200d, 0x1f3ed], "man_factory_worker_medium-dark_skin_tone"),
   ([0x1f468, 0x1f3fc, 0x200d, 0x1f3ed], "man_factory_worker_medium-light_skin_tone"),
   ([0x1f468, 0x1f3fd, 0x200d, 0x1f3ed], "man_factory_worker_medium_skin_tone"),
   ([0x1f9da, 0x200d, 0x2642, 0xfe0f], "man_fairy"),
   ([0x1f9da, 0x1f3ff, 0x200d, 0x2642, 0xfe0f], "man_fairy_dark_skin_tone"),
   ([0x1f9da, 0x1f3fb, 0x200d, 0x2642, 0xfe0f], "man_fairy_light_skin_tone"),
   ([0x1f9da, 0x1f3fe, 0x200d, 0x2642, 0xfe0f], "man_fairy_medium-dark_skin_tone"),
   ([0x1f9da, 0x1f3fc, 0x200d, 0x2642, 0xfe0f], "man_fairy_medium-light_skin_tone"),
   ([0x1f9da, 0x1f3fd, 0x200d, 0x2642, 0xfe0f], "man_fairy_medium_skin_tone"),
   ([0x1f468, 0x200d, 0x1f33e], "man_farmer"),
   ([0x1f468, 0x1f3ff, 0x200d, 0x1f33e], "man_farmer_dark_skin_tone"),
   ([0x1f468, 0x1f3fb, 0x200d, 0x1f33e], "man_farmer_light_skin_tone"),
   ([0x1f468, 0x1f3fe, 0x200d, 0x1f33e], "man_farmer_medium-dark_skin_tone"),
   ([0x1f468, 0x1f3fc, 0x200d, 0x1f33e], "man_farmer_medium-light_skin_tone"),
   ([0x1f468, 0x1f3fd, 0x200d, 0x1f33e], "man_farmer_medium_skin_tone"),
   ([0x1f468, 0x200d, 0x1f692], "man_firefighter"),
   ([0x1f468, 0x1f3ff, 0x200d, 0x1f692], "man_firefighter_dark_skin_tone"),
   ([0x1f468, 0x1f3fb, 0x200d, 0x1f692], "man_firefighter_light_skin_tone"),
   ([0x1f468, 0x1f3fe, 0x200d, 0x1f692], "man_firefighter_medium-dark_skin_tone"),
   ([0x1f468, 0x1f3fc, 0x200d, 0x1f692], "man_firefighter_medium-light_skin_tone"),
   ([0x1f468, 0x1f3fd, 0x200d, 0x1f692], "man_firefighter_medium_skin_tone"),
   ([0x1f64d, 0x200d, 0x2642, 0xfe0f], "man_frowning"),
   ([0x1f64d, 0x1f3ff, 0x200d, 0x2642, 0xfe0f], "man_frowning_dark_skin_tone"),
   ([0x1f64d, 0x1f3fb, 0x200d, 0x2642, 0xfe0f], "man_frowning_light_skin_tone"),
   ([0x1f64d, 0x1f3fe, 0x200d, 0x2642, 0xfe0f], "man_frowning_medium-dark_skin_tone"),
   ([0x1f64d, 0x1f3fc, 0x200d, 0x2642, 0xfe0f], "man_frowning_medium-light_skin_tone"),
   ([0x1f64d, 0x1f3fd, 0x200d, 0x2642, 0xfe0f], "man_frowning_medium_skin_tone"),
   ([0x1f9de, 0x200d, 0x2642, 0xfe0f], "man_genie"),
   ([0x1f645, 0x200d, 0x2642, 0xfe0f], "man_gesturing_no"),
   ([0x1f645, 0x1f3ff, 0x200d, 0x2642, 0xfe0f], "man_gesturing_no_dark_skin_tone"),
   ([0x1f645, 0x1f3fb, 0x200d, 0x2642, 0xfe0f], "man_gesturing_no_light_skin_tone"),
   ([0x1f645, 0x1f3fe, 0x200d, 0x2642, 0xfe0f], "man_gesturing_no_medium-dark_skin_tone"),
   ([0x1f645, 0x1f3fc, 0x200d, 0x2642, 0xfe0f], "man_gesturing_no_medium-light_skin_tone"),
   ([0x1f645, 0x1f3fd, 0x200d, 0x2642, 0xfe0f], "man_gesturing_no_medium_skin_tone"),
   ([0x1f646, 0x200d, 0x2642, 0xfe0f], "man_gesturing_ok"),
   ([0x1f646, 0x1f3ff, 0x200d, 0x2642, 0xfe0f], "man_gesturing_ok_dark_skin_tone"),
   ([0x1f646, 0x1f3fb, 0x200d, 0x2642, 0xfe0f], "man_gesturing_ok_light_skin_tone"),
   ([0x1f646, 0x1f3fe, 0x200d, 0x2642, 0xfe0f], "man_gesturing_ok_medium-dark_skin_tone"),
   ([0x1f646, 0x1f3fc, 0x200d, 0x2642, 0xfe0f], "man_gesturing_ok_medium-light_skin_tone"),
   ([0x1f646, 0x1f3fd, 0x200d, 0x2642, 0xfe0f], "man_gesturing_ok_medium_skin_tone"),
   ([0x1f487, 0x200d, 0x2642, 0xfe0f], "man_getting_haircut"),
   ([0x1f487, 0x1f3ff, 0x200d, 0x2642, 0xfe0f], "man_getting_haircut_dark_skin_tone"),
   ([0x1f487, 0x1f3fb, 0x200d, 0x2642, 0xfe0f], "man_getting_haircut_light_skin_tone"),
   ([0x1f487, 0x1f3fe, 0x200d, 0x2642, 0xfe0f], "man_getting_haircut_medium-dark_skin_tone"),
   ([0x1f487, 0x1f3fc, 0x200d, 0x2642, 0xfe0f], "man_getting_haircut_medium-light_skin_tone"),
   ([0x1f487, 0x1f3fd, 0x200d, 0x2642, 0xfe0f], "man_getting_haircut_medium_skin_tone"),
   ([0x1f486, 0x200d, 0x2642, 0xfe0f], "man_getting_massage"),
   ([0x1f486, 0x1f3ff, 0x200d, 0x2642, 0xfe0f], "man_getting_massage_dark_skin_tone"),
   ([0x1f486, 0x1f3fb, 0x200d, 0x2642, 0xfe0f], "man_getting_massage_light_skin_tone"),
   ([0x1f486, 0x1f3fe, 0x200d, 0x2642, 0xfe0f], "man_getting_massage_medium-dark_skin_tone"),
   ([0x1f486, 0x1f3fc, 0x200d, 0x2642, 0xfe0f], "man_getting_massage_medium-light_skin_tone"),
   ([0x1f486, 0x1f3fd, 0x200d, 0x2642, 0xfe0f], "man_getting_massage_medium_skin_tone"),
   ([0x1f3cc, 0xfe0f, 0x200d, 0x2642, 0xfe0f], "man_golfing"),
   ([0x1f3cc, 0x1f3ff, 0x200d, 0x2642, 0xfe0f], "man_golfing_dark_skin_tone"),
   ([0x1f3cc, 0x1f3fb, 0x200d, 0x2642, 0xfe0f], "man_golfing_light_skin_tone"),
   ([0x1f3cc, 0x1f3fe, 0x200d, 0x2642, 0xfe0f], "man_golfing_medium-dark_skin_tone"),
   ([0x1f3cc, 0x1f3fc, 0x200d, 0x2642, 0xfe0f], "man_golfing_medium-light_skin_tone"),
   ([0x1f3cc, 0x1f3fd, 0x200d, 0x2642, 0xfe0f], "man_golfing_medium_skin_tone"),
   ([0x1f482, 0x200d, 0x2642, 0xfe0f], "man_guard"),
   ([0x1f482, 0x1f3ff, 0x200d, 0x2642, 0xfe0f], "man_guard_dark_skin_tone"),
   ([0x1f482, 0x1f3fb, 0x200d, 0x2642, 0xfe0f], "man_guard_light_skin_tone"),
   ([0x1f482, 0x1f3fe, 0x200d, 0x2642, 0xfe0f], "man_guard_medium-dark_skin_tone"),
   ([0x1f482, 0x1f3fc, 0x200d, 0x2642, 0xfe0f], "man_guard_medium-light_skin_tone"),
   ([0x1f482, 0x1f3fd, 0x200d, 0x2642, 0xfe0f], "man_guard_medium_skin_tone"),
   ([0x1f468, 0x200d, 0x2695, 0xfe0f], "man_health_worker"),
   ([0x1f468, 0x1f3ff, 0x200d, 0x2695, 0xfe0f], "man_health_worker_dark_skin_tone"),
   ([0x1f468, 0x1f3fb, 0x200d, 0x2695, 0xfe0f], "man_health_worker_light_skin_tone"),
   ([0x1f468, 0x1f3fe, 0x200d, 0x2695, 0xfe0f], "man_health_worker_medium-dark_skin_tone"),
   ([0x1f468, 0x1f3fc, 0x200d, 0x2695, 0xfe0f], "man_health_worker_medium-light_skin_tone"),
   ([0x1f468, 0x1f3fd, 0x200d, 0x2695, 0xfe0f], "man_health_worker_medium_skin_tone"),
   ([0x1f9d8, 0x200d, 0x2642, 0xfe0f], "man_in_lotus_position"),
   ([0x1f9d8, 0x1f3ff, 0x200d, 0x2642, 0xfe0f], "man_in_lotus_position_dark_skin_tone"),
   ([0x1f9d8, 0x1f3fb, 0x200d, 0x2642, 0xfe0f], "man_in_lotus_position_light_skin_tone"),
   ([0x1f9d8, 0x1f3fe, 0x200d, 0x2642, 0xfe0f], "man_in_lotus_position_medium-dark_skin_tone"),
   ([0x1f9d8, 0x1f3fc, 0x200d, 0x2642, 0xfe0f], "man_in_lotus_position_medium-light_skin_tone"),
   ([0x1f9d8, 0x1f3fd, 0x200d, 0x2642, 0xfe0f], "man_in_lotus_position_medium_skin_tone"),
   ([0x1f468, 0x200d, 0x1f9bd], "man_in_manual_wheelchair"),
   ([0x1f468, 0x200d, 0x1f9bc], "man_in_motorized_wheelchair"),
   ([0x1f9d6, 0x200d, 0x2642, 0xfe0f], "man_in_steamy_room"),
   ([0x1f9d6, 0x1f3ff, 0x200d, 0x2642, 0xfe0f], "man_in_steamy_room_dark_skin_tone"),
   ([0x1f9d6, 0x1f3fb, 0x200d, 0x2642, 0xfe0f], "man_in_steamy_room_light_skin_tone"),
   ([0x1f9d6, 0x1f3fe, 0x200d, 0x2642, 0xfe0f], "man_in_steamy_room_medium-dark_skin_tone"),
   ([0x1f9d6, 0x1f3fc, 0x200d, 0x2642, 0xfe0f], "man_in_steamy_room_medium-light_skin_tone"),
   ([0x1f9d6, 0x1f3fd, 0x200d, 0x2642, 0xfe0f], "man_in_steamy_room_medium_skin_tone"),
   ([0x1f574], "man_in_suit_levitating man_in_business_suit_levitating"),
   ([0x1f574, 0x1f3ff], "man_in_suit_levitating_dark_skin_tone"),
   ([0x1f574, 0x1f3fb], "man_in_suit_levitating_light_skin_tone"),
   ([0x1f574, 0x1f3fe], "man_in_suit_levitating_medium-dark_skin_tone"),
   ([0x1f574, 0x1f3fc], "man_in_suit_levitating_medium-light_skin_tone"),
   ([0x1f574, 0x1f3fd], "man_in_suit_levitating_medium_skin_tone"), ([0x1f935], "man_in_tuxedo"),
   ([0x1f935, 0x1f3ff], "man_in_tuxedo_dark_skin_tone"),
   ([0x1f935, 0x1f3fb], "man_in_tuxedo_light_skin_tone"),
   ([0x1f935, 0x1f3fe], "man_in_tuxedo_medium-dark_skin_tone"),
   ([0x1f935, 0x1f3fc], "man_in_tuxedo_medium-light_skin_tone"),
   ([0x1f935, 0x1f3fd], "man_in_tuxedo_medium_skin_tone"),
   ([0x1f468, 0x200d, 0x2696, 0xfe0f], "man_judge"),
   ([0x1f468, 0x1f3ff, 0x200d, 0x2696, 0xfe0f], "man_judge_dark_skin_tone"),
   ([0x1f468, 0x1f3fb, 0x200d, 0x2696, 0xfe0f], "man_judge_light_skin_tone"),
   ([0x1f468, 0x1f3fe, 0x200d, 0x2696, 0xfe0f], "man_judge_medium-dark_skin_tone"),
   ([0x1f468, 0x1f3fc, 0x200d, 0x2696, 0xfe0f], "man_judge_medium-light_skin_tone"),
   ([0x1f468, 0x1f3fd, 0x200d, 0x2696, 0xfe0f], "man_judge_medium_skin_tone"),
   ([0x1f939, 0x200d, 0x2642, 0xfe0f], "man_juggling"),
   ([0x1f939, 0x1f3ff, 0x200d, 0x2642, 0xfe0f], "man_juggling_dark_skin_tone"),
   ([0x1f939, 0x1f3fb, 0x200d, 0x2642, 0xfe0f], "man_juggling_light_skin_tone"),
   ([0x1f939, 0x1f3fe, 0x200d, 0x2642, 0xfe0f], "man_juggling_medium-dark_skin_tone"),
   ([0x1f939, 0x1f3fc, 0x200d, 0x2642, 0xfe0f], "man_juggling_medium-light_skin_tone"),
   ([0x1f939, 0x1f3fd, 0x200d, 0x2642, 0xfe0f], "man_juggling_medium_skin_tone"),
   ([0x1f3cb, 0xfe0f, 0x200d, 0x2642, 0xfe0f], "man_lifting_weights"),
   ([0x1f3cb, 0x1f3ff, 0x200d, 0x2642, 0xfe0f], "man_lifting_weights_dark_skin_tone"),
   ([0x1f3cb, 0x1f3fb, 0x200d, 0x2642, 0xfe0f], "man_lifting_weights_light_skin_tone"),
   ([0x1f3cb, 0x1f3fe, 0x200d, 0x2642, 0xfe0f], "man_lifting_weights_medium-dark_skin_tone"),
   ([0x1f3cb, 0x1f3fc, 0x200d, 0x2642, 0xfe0f], "man_lifting_weights_medium-light_skin_tone"),
   ([0x1f3cb, 0x1f3fd, 0x200d, 0x2642, 0xfe0f], "man_lifting_weights_medium_skin_tone"),
   ([0x1f468, 0x1f3fb], "man_light_skin_tone"), ([0x1f9d9, 0x200d, 0x2642, 0xfe0f], "man_mage"),
   ([0x1f9d9, 0x1f3ff, 0x200d, 0x2642, 0xfe0f], "man_mage_dark_skin_tone"),
   ([0x1f9d9, 0x1f3fb, 0x200d, 0x2642, 0xfe0f], "man_mage_light_skin_tone"),
   ([0x1f9d9, 0x1f3fe, 0x200d, 0x2642, 0xfe0f], "man_mage_medium-dark_skin_tone"),
   ([0x1f9d9, 0x1f3fc, 0x200d, 0x2642, 0xfe0f], "man_mage_medium-light_skin_tone"),
   ([0x1f9d9, 0x1f3fd, 0x200d, 0x2642, 0xfe0f], "man_mage_medium_skin_tone"),
   ([0x1f468, 0x200d, 0x1f527], "man_mechanic"),
   ([0x1f468, 0x1f3ff, 0x200d, 0x1f527], "man_mechanic_dark_skin_tone"),
   ([0x1f468, 0x1f3fb, 0x200d, 0x1f527], "man_mechanic_light_skin_tone"),
   ([0x1f468, 0x1f3fe, 0x200d, 0x1f527], "man_mechanic_medium-dark_skin_tone"),
   ([0x1f468, 0x1f3fc, 0x200d, 0x1f527], "man_mechanic_medium-light_skin_tone"),
   ([0x1f468, 0x1f3fd, 0x200d, 0x1f527], "man_mechanic_medium_skin_tone"),
   ([0x1f468, 0x1f3fe], "man_medium-dark_skin_tone"),
   ([0x1f468, 0x1f3fc], "man_medium-light_skin_tone"), ([0x1f468, 0x1f3fd], "man_medium_skin_tone"),
   ([0x1f6b5, 0x200d, 0x2642, 0xfe0f], "man_mountain_biking"),
   ([0x1f6b5, 0x1f3ff, 0x200d, 0x2642, 0xfe0f], "man_mountain_biking_dark_skin_tone"),
   ([0x1f6b5, 0x1f3fb, 0x200d, 0x2642, 0xfe0f], "man_mountain_biking_light_skin_tone"),
   ([0x1f6b5, 0x1f3fe, 0x200d, 0x2642, 0xfe0f], "man_mountain_biking_medium-dark_skin_tone"),
   ([0x1f6b5, 0x1f3fc, 0x200d, 0x2642, 0xfe0f], "man_mountain_biking_medium-light_skin_tone"),
   ([0x1f6b5, 0x1f3fd, 0x200d, 0x2642, 0xfe0f], "man_mountain_biking_medium_skin_tone"),
   ([0x1f468, 0x200d, 0x1f4bc], "man_office_worker"),
   ([0x1f468, 0x1f3ff, 0x200d, 0x1f4bc], "man_office_worker_dark_skin_tone"),
   ([0x1f468, 0x1f3fb, 0x200d, 0x1f4bc], "man_office_worker_light_skin_tone"),
   ([0x1f468, 0x1f3fe, 0x200d, 0x1f4bc], "man_office_worker_medium-dark_skin_tone"),
   ([0x1f468, 0x1f3fc, 0x200d, 0x1f4bc], "man_office_worker_medium-light_skin_tone"),
   ([0x1f468, 0x1f3fd, 0x200d, 0x1f4bc], "man_office_worker_medium_skin_tone"),
   ([0x1f468, 0x200d, 0x2708, 0xfe0f], "man_pilot"),
   ([0x1f468, 0x1f3ff, 0x200d, 0x2708, 0xfe0f], "man_pilot_dark_skin_tone"),
   ([0x1f468, 0x1f3fb, 0x200d, 0x2708, 0xfe0f], "man_pilot_light_skin_tone"),
   ([0x1f468, 0x1f3fe, 0x200d, 0x2708, 0xfe0f], "man_pilot_medium-dark_skin_tone"),
   ([0x1f468, 0x1f3fc, 0x200d, 0x2708, 0xfe0f], "man_pilot_medium-light_skin_tone"),
   ([0x1f468, 0x1f3fd, 0x200d, 0x2708, 0xfe0f], "man_pilot_medium_skin_tone"),
   ([0x1f93e, 0x200d, 0x2642, 0xfe0f], "man_playing_handball"),
   ([0x1f93e, 0x1f3ff, 0x200d, 0x2642, 0xfe0f], "man_playing_handball_dark_skin_tone"),
   ([0x1f93e, 0x1f3fb, 0x200d, 0x2642, 0xfe0f], "man_playing_handball_light_skin_tone"),
   ([0x1f93e, 0x1f3fe, 0x200d, 0x2642, 0xfe0f], "man_playing_handball_medium-dark_skin_tone"),
   ([0x1f93e, 0x1f3fc, 0x200d, 0x2642, 0xfe0f], "man_playing_handball_medium-light_skin_tone"),
   ([0x1f93e, 0x1f3fd, 0x200d, 0x2642, 0xfe0f], "man_playing_handball_medium_skin_tone"),
   ([0x1f93d, 0x200d, 0x2642, 0xfe0f], "man_playing_water_polo"),
   ([0x1f93d, 0x1f3ff, 0x200d, 0x2642, 0xfe0f], "man_playing_water_polo_dark_skin_tone"),
   ([0x1f93d, 0x1f3fb, 0x200d, 0x2642, 0xfe0f], "man_playing_water_polo_light_skin_tone"),
   ([0x1f93d, 0x1f3fe, 0x200d, 0x2642, 0xfe0f], "man_playing_water_polo_medium-dark_skin_tone"),
   ([0x1f93d, 0x1f3fc, 0x200d, 0x2642, 0xfe0f], "man_playing_water_polo_medium-light_skin_tone"),
   ([0x1f93d, 0x1f3fd, 0x200d, 0x2642, 0xfe0f], "man_playing_water_polo_medium_skin_tone"),
   ([0x1f46e, 0x200d, 0x2642, 0xfe0f], "man_police_officer"),
   ([0x1f46e, 0x1f3ff, 0x200d, 0x2642, 0xfe0f], "man_police_officer_dark_skin_tone"),
   ([0x1f46e, 0x1f3fb, 0x200d, 0x2642, 0xfe0f], "man_police_officer_light_skin_tone"),
   ([0x1f46e, 0x1f3fe, 0x200d, 0x2642, 0xfe0f], "man_police_officer_medium-dark_skin_tone"),
   ([0x1f46e, 0x1f3fc, 0x200d, 0x2642, 0xfe0f], "man_police_officer_medium-light_skin_tone"),
   ([0x1f46e, 0x1f3fd, 0x200d, 0x2642, 0xfe0f], "man_police_officer_medium_skin_tone"),
   ([0x1f64e, 0x200d, 0x2642, 0xfe0f], "man_pouting"),
   ([0x1f64e, 0x1f3ff, 0x200d, 0x2642, 0xfe0f], "man_pouting_dark_skin_tone"),
   ([0x1f64e, 0x1f3fb, 0x200d, 0x2642, 0xfe0f], "man_pouting_light_skin_tone"),
   ([0x1f64e, 0x1f3fe, 0x200d, 0x2642, 0xfe0f], "man_pouting_medium-dark_skin_tone"),
   ([0x1f64e, 0x1f3fc, 0x200d, 0x2642, 0xfe0f], "man_pouting_medium-light_skin_tone"),
   ([0x1f64e, 0x1f3fd, 0x200d, 0x2642, 0xfe0f], "man_pouting_medium_skin_tone"),
   ([0x1f64b, 0x200d, 0x2642, 0xfe0f], "man_raising_hand"),
   ([0x1f64b, 0x1f3ff, 0x200d, 0x2642, 0xfe0f], "man_raising_hand_dark_skin_tone"),
   ([0x1f64b, 0x1f3fb, 0x200d, 0x2642, 0xfe0f], "man_raising_hand_light_skin_tone"),
   ([0x1f64b, 0x1f3fe, 0x200d, 0x2642, 0xfe0f], "man_raising_hand_medium-dark_skin_tone"),
   ([0x1f64b, 0x1f3fc, 0x200d, 0x2642, 0xfe0f], "man_raising_hand_medium-light_skin_tone"),
   ([0x1f64b, 0x1f3fd, 0x200d, 0x2642, 0xfe0f], "man_raising_hand_medium_skin_tone"),
   ([0x1f6a3, 0x200d, 0x2642, 0xfe0f], "man_rowing_boat"),
   ([0x1f6a3, 0x1f3ff, 0x200d, 0x2642, 0xfe0f], "man_rowing_boat_dark_skin_tone"),
   ([0x1f6a3, 0x1f3fb, 0x200d, 0x2642, 0xfe0f], "man_rowing_boat_light_skin_tone"),
   ([0x1f6a3, 0x1f3fe, 0x200d, 0x2642, 0xfe0f], "man_rowing_boat_medium-dark_skin_tone"),
   ([0x1f6a3, 0x1f3fc, 0x200d, 0x2642, 0xfe0f], "man_rowing_boat_medium-light_skin_tone"),
   ([0x1f6a3, 0x1f3fd, 0x200d, 0x2642, 0xfe0f], "man_rowing_boat_medium_skin_tone"),
   ([0x1f3c3, 0x200d, 0x2642, 0xfe0f], "man_running"),
   ([0x1f3c3, 0x1f3ff, 0x200d, 0x2642, 0xfe0f], "man_running_dark_skin_tone"),
   ([0x1f3c3, 0x1f3fb, 0x200d, 0x2642, 0xfe0f], "man_running_light_skin_tone"),
   ([0x1f3c3, 0x1f3fe, 0x200d, 0x2642, 0xfe0f], "man_running_medium-dark_skin_tone"),
   ([0x1f3c3, 0x1f3fc, 0x200d, 0x2642, 0xfe0f], "man_running_medium-light_skin_tone"),
   ([0x1f3c3, 0x1f3fd, 0x200d, 0x2642, 0xfe0f], "man_running_medium_skin_tone"),
   ([0x1f468, 0x200d, 0x1f52c], "man_scientist"),
   ([0x1f468, 0x1f3ff, 0x200d, 0x1f52c], "man_scientist_dark_skin_tone"),
   ([0x1f468, 0x1f3fb, 0x200d, 0x1f52c], "man_scientist_light_skin_tone"),
   ([0x1f468, 0x1f3fe, 0x200d, 0x1f52c], "man_scientist_medium-dark_skin_tone"),
   ([0x1f468, 0x1f3fc, 0x200d, 0x1f52c], "man_scientist_medium-light_skin_tone"),
   ([0x1f468, 0x1f3fd, 0x200d, 0x1f52c], "man_scientist_medium_skin_tone"),
   ([0x1f937, 0x200d, 0x2642, 0xfe0f], "man_shrugging"),
   ([0x1f937, 0x1f3ff, 0x200d, 0x2642, 0xfe0f], "man_shrugging_dark_skin_tone"),
   ([0x1f937, 0x1f3fb, 0x200d, 0x2642, 0xfe0f], "man_shrugging_light_skin_tone"),
   ([0x1f937, 0x1f3fe, 0x200d, 0x2642, 0xfe0f], "man_shrugging_medium-dark_skin_tone"),
   ([0x1f937, 0x1f3fc, 0x200d, 0x2642, 0xfe0f], "man_shrugging_medium-light_skin_tone"),
   ([0x1f937, 0x1f3fd, 0x200d, 0x2642, 0xfe0f], "man_shrugging_medium_skin_tone"),
   ([0x1f468, 0x200d, 0x1f3a4], "man_singer"),
   ([0x1f468, 0x1f3ff, 0x200d, 0x1f3a4], "man_singer_dark_skin_tone"),
   ([0x1f468, 0x1f3fb, 0x200d, 0x1f3a4], "man_singer_light_skin_tone"),
   ([0x1f468, 0x1f3fe, 0x200d, 0x1f3a4], "man_singer_medium-dark_skin_tone"),
   ([0x1f468, 0x1f3fc, 0x200d, 0x1f3a4], "man_singer_medium-light_skin_tone"),
   ([0x1f468, 0x1f3fd, 0x200d, 0x1f3a4], "man_singer_medium_skin_tone"),
   ([0x1f468, 0x200d, 0x1f393], "man_student"),
   ([0x1f468, 0x1f3ff, 0x200d, 0x1f393], "man_student_dark_skin_tone"),
   ([0x1f468, 0x1f3fb, 0x200d, 0x1f393], "man_student_light_skin_tone"),
   ([0x1f468, 0x1f3fe, 0x200d, 0x1f393], "man_student_medium-dark_skin_tone"),
   ([0x1f468, 0x1f3fc, 0x200d, 0x1f393], "man_student_medium-light_skin_tone"),
   ([0x1f468, 0x1f3fd, 0x200d, 0x1f393], "man_student_medium_skin_tone"),
   ([0x1f3c4, 0x200d, 0x2642, 0xfe0f], "man_surfing"),
   ([0x1f3c4, 0x1f3ff, 0x200d, 0x2642, 0xfe0f], "man_surfing_dark_skin_tone"),
   ([0x1f3c4, 0x1f3fb, 0x200d, 0x2642, 0xfe0f], "man_surfing_light_skin_tone"),
   ([0x1f3c4, 0x1f3fe, 0x200d, 0x2642, 0xfe0f], "man_surfing_medium-dark_skin_tone"),
   ([0x1f3c4, 0x1f3fc, 0x200d, 0x2642, 0xfe0f], "man_surfing_medium-light_skin_tone"),
   ([0x1f3c4, 0x1f3fd, 0x200d, 0x2642, 0xfe0f], "man_surfing_medium_skin_tone"),
   ([0x1f3ca, 0x200d, 0x2642, 0xfe0f], "man_swimming"),
   ([0x1f3ca, 0x1f3ff, 0x200d, 0x2642, 0xfe0f], "man_swimming_dark_skin_tone"),
   ([0x1f3ca, 0x1f3fb, 0x200d, 0x2642, 0xfe0f], "man_swimming_light_skin_tone"),
   ([0x1f3ca, 0x1f3fe, 0x200d, 0x2642, 0xfe0f], "man_swimming_medium-dark_skin_tone"),
   ([0x1f3ca, 0x1f3fc, 0x200d, 0x2642, 0xfe0f], "man_swimming_medium-light_skin_tone"),
   ([0x1f3ca, 0x1f3fd, 0x200d, 0x2642, 0xfe0f], "man_swimming_medium_skin_tone"),
   ([0x1f468, 0x200d, 0x1f3eb], "man_teacher"),
   ([0x1f468, 0x1f3ff, 0x200d, 0x1f3eb], "man_teacher_dark_skin_tone"),
   ([0x1f468, 0x1f3fb, 0x200d, 0x1f3eb], "man_teacher_light_skin_tone"),
   ([0x1f468, 0x1f3fe, 0x200d, 0x1f3eb], "man_teacher_medium-dark_skin_tone"),
   ([0x1f468, 0x1f3fc, 0x200d, 0x1f3eb], "man_teacher_medium-light_skin_tone"),
   ([0x1f468, 0x1f3fd, 0x200d, 0x1f3eb], "man_teacher_medium_skin_tone"),
   ([0x1f468, 0x200d, 0x1f4bb], "man_technologist"),
   ([0x1f468, 0x1f3ff, 0x200d, 0x1f4bb], "man_technologist_dark_skin_tone"),
   ([0x1f468, 0x1f3fb, 0x200d, 0x1f4bb], "man_technologist_light_skin_tone"),
   ([0x1f468, 0x1f3fe, 0x200d, 0x1f4bb], "man_technologist_medium-dark_skin_tone"),
   ([0x1f468, 0x1f3fc, 0x200d, 0x1f4bb], "man_technologist_medium-light_skin_tone"),
   ([0x1f468, 0x1f3fd, 0x200d, 0x1f4bb], "man_technologist_medium_skin_tone"),
   ([0x1f481, 0x200d, 0x2642, 0xfe0f], "man_tipping_hand"),
   ([0x1f481, 0x1f3ff, 0x200d, 0x2642, 0xfe0f], "man_tipping_hand_dark_skin_tone"),
   ([0x1f481, 0x1f3fb, 0x200d, 0x2642, 0xfe0f], "man_tipping_hand_light_skin_tone"),
   ([0x1f481, 0x1f3fe, 0x200d, 0x2642, 0xfe0f], "man_tipping_hand_medium-dark_skin_tone"),
   ([0x1f481, 0x1f3fc, 0x200d, 0x2642, 0xfe0f], "man_tipping_hand_medium-light_skin_tone"),
   ([0x1f481, 0x1f3fd, 0x200d, 0x2642, 0xfe0f], "man_tipping_hand_medium_skin_tone"),
   ([0x1f9db, 0x200d, 0x2642, 0xfe0f], "man_vampire"),
   ([0x1f9db, 0x1f3ff, 0x200d, 0x2642, 0xfe0f], "man_vampire_dark_skin_tone"),
   ([0x1f9db, 0x1f3fb, 0x200d, 0x2642, 0xfe0f], "man_vampire_light_skin_tone"),
   ([0x1f9db, 0x1f3fe, 0x200d, 0x2642, 0xfe0f], "man_vampire_medium-dark_skin_tone"),
   ([0x1f9db, 0x1f3fc, 0x200d, 0x2642, 0xfe0f], "man_vampire_medium-light_skin_tone"),
   ([0x1f9db, 0x1f3fd, 0x200d, 0x2642, 0xfe0f], "man_vampire_medium_skin_tone"),
   ([0x1f6b6, 0x200d, 0x2642, 0xfe0f], "man_walking"),
   ([0x1f6b6, 0x1f3ff, 0x200d, 0x2642, 0xfe0f], "man_walking_dark_skin_tone"),
   ([0x1f6b6, 0x1f3fb, 0x200d, 0x2642, 0xfe0f], "man_walking_light_skin_tone"),
   ([0x1f6b6, 0x1f3fe, 0x200d, 0x2642, 0xfe0f], "man_walking_medium-dark_skin_tone"),
   ([0x1f6b6, 0x1f3fc, 0x200d, 0x2642, 0xfe0f], "man_walking_medium-light_skin_tone"),
   ([0x1f6b6, 0x1f3fd, 0x200d, 0x2642, 0xfe0f], "man_walking_medium_skin_tone"),
   ([0x1f473, 0x200d, 0x2642, 0xfe0f], "man_wearing_turban"),
   ([0x1f473, 0x1f3ff, 0x200d, 0x2642, 0xfe0f], "man_wearing_turban_dark_skin_tone"),
   ([0x1f473, 0x1f3fb, 0x200d, 0x2642, 0xfe0f], "man_wearing_turban_light_skin_tone"),
   ([0x1f473, 0x1f3fe, 0x200d, 0x2642, 0xfe0f], "man_wearing_turban_medium-dark_skin_tone"),
   ([0x1f473, 0x1f3fc, 0x200d, 0x2642, 0xfe0f], "man_wearing_turban_medium-light_skin_tone"),
   ([0x1f473, 0x1f3fd, 0x200d, 0x2642, 0xfe0f], "man_wearing_turban_medium_skin_tone"),
   ([0x1f468, 0x200d, 0x1f9af], "man_with_probing_cane"),
   ([0x1f472], "man_with_chinese_cap man_with_gua_pi_mao"),
   ([0x1f472, 0x1f3ff], "man_with_chinese_cap_dark_skin_tone"),
   ([0x1f472, 0x1f3fb], "man_with_chinese_cap_light_skin_tone"),
   ([0x1f472, 0x1f3fe], "man_with_chinese_cap_medium-dark_skin_tone"),
   ([0x1f472, 0x1f3fc], "man_with_chinese_cap_medium-light_skin_tone"),
   ([0x1f472, 0x1f3fd], "man_with_chinese_cap_medium_skin_tone"),
   ([0x1f9df, 0x200d, 0x2642, 0xfe0f], "man_zombie"), ([0x1f96d], "mango"),
   ([0x1f570], "mantelpiece_clock"), ([0x1f9bd], "manual_wheelchair"),
   ([0x1f45e], "man’s_shoe mans_shoe shoe"), ([0x1f341], "maple_leaf"),
   ([0x1f94b], "martial_arts_uniform"), ([0x1f9c9], "mate"), ([0x1f356], "meat_on_bone"),
   ([0x1f9be], "mechanical_arm"), ([0x1f9bf], "mechanical_leg"), ([0x2695], "medical_symbol"),
   ([0x1f4e3], "megaphone mega"), ([0x1f348], "melon"), ([0x1f4dd], "memo pencil"),
   ([0x1f46f, 0x200d, 0x2642, 0xfe0f], "men_with_bunny_ears"),
   ([0x1f93c, 0x200d, 0x2642, 0xfe0f], "men_wrestling"),
   ([0x1f54e], "menorah menorah_with_nine_branches"), ([0x1f6b9], "men’s_room mens"),
   ([0x1f9dc, 0x200d, 0x2640, 0xfe0f], "mermaid"),
   ([0x1f9dc, 0x1f3ff, 0x200d, 0x2640, 0xfe0f], "mermaid_dark_skin_tone"),
   ([0x1f9dc, 0x1f3fb, 0x200d, 0x2640, 0xfe0f], "mermaid_light_skin_tone"),
   ([0x1f9dc, 0x1f3fe, 0x200d, 0x2640, 0xfe0f], "mermaid_medium-dark_skin_tone"),
   ([0x1f9dc, 0x1f3fc, 0x200d, 0x2640, 0xfe0f], "mermaid_medium-light_skin_tone"),
   ([0x1f9dc, 0x1f3fd, 0x200d, 0x2640, 0xfe0f], "mermaid_medium_skin_tone"),
   ([0x1f9dc, 0x200d, 0x2642, 0xfe0f], "merman"),
   ([0x1f9dc, 0x1f3ff, 0x200d, 0x2642, 0xfe0f], "merman_dark_skin_tone"),
   ([0x1f9dc, 0x1f3fb, 0x200d, 0x2642, 0xfe0f], "merman_light_skin_tone"),
   ([0x1f9dc, 0x1f3fe, 0x200d, 0x2642, 0xfe0f], "merman_medium-dark_skin_tone"),
   ([0x1f9dc, 0x1f3fc, 0x200d, 0x2642, 0xfe0f], "merman_medium-light_skin_tone"),
   ([0x1f9dc, 0x1f3fd, 0x200d, 0x2642, 0xfe0f], "merman_medium_skin_tone"),
   ([0x1f9dc], "merperson"), ([0x1f9dc, 0x1f3ff], "merperson_dark_skin_tone"),
   ([0x1f9dc, 0x1f3fb], "merperson_light_skin_tone"),
   ([0x1f9dc, 0x1f3fe], "merperson_medium-dark_skin_tone"),
   ([0x1f9dc, 0x1f3fc], "merperson_medium-light_skin_tone"),
   ([0x1f9dc, 0x1f3fd], "merperson_medium_skin_tone"), ([0x1f687], "metro"), ([0x1f9a0], "microbe"),
   ([0x1f3a4], "microphone"), ([0x1f52c], "microscope"),
   ([0x1f595], "middle_finger reversed_hand_with_middle_finger_extended"),
   ([0x1f595, 0x1f3ff], "middle_finger_dark_skin_tone"),
   ([0x1f595, 0x1f3fb], "middle_finger_light_skin_tone"),
   ([0x1f595, 0x1f3fe], "middle_finger_medium-dark_skin_tone"),
   ([0x1f595, 0x1f3fc], "middle_finger_medium-light_skin_tone"),
   ([0x1f595, 0x1f3fd], "middle_finger_medium_skin_tone"), ([0x1f396], "military_medal"),
   ([0x1f30c], "milky_way"), ([0x1f690], "minibus"), ([0x1f5ff], "moai moyai"),
   ([0x1f4f1], "mobile_phone iphone"), ([0x1f4f4], "mobile_phone_off"),
   ([0x1f4f2], "mobile_phone_with_arrow calling"),
   ([0x1f911], "money-mouth_face money__mouth_face"), ([0x1f4b0], "money_bag moneybag"),
   ([0x1f4b8], "money_with_wings"), ([0x1f412], "monkey"), ([0x1f435], "monkey_face"),
   ([0x1f69d], "monorail"), ([0x1f96e], "moon_cake"),
   ([0x1f391], "moon_viewing_ceremony rice_scene"), ([0x1f54c], "mosque"), ([0x1f99f], "mosquito"),
   ([0x1f6e5], "motor_boat"), ([0x1f6f5], "motor_scooter"),
   ([0x1f3cd], "motorcycle racing_motorcycle"), ([0x1f9bc], "motorized_wheelchair"),
   ([0x1f6e3], "motorway"), ([0x1f5fb], "mount_fuji"), ([0x26f0], "mountain"),
   ([0x1f6a0], "mountain_cableway"), ([0x1f69e], "mountain_railway"),
   ([0x1f42d], "mouse mouse_face"), ([0x1f444], "mouth lips"), ([0x1f3a5], "movie_camera"),
   ([0x1f344], "mushroom"), ([0x1f3b9], "musical_keyboard"), ([0x1f3b5], "musical_note"),
   ([0x1f3b6], "musical_notes notes"), ([0x1f3bc], "musical_score"),
   ([0x1f507], "muted_speaker mute"), ([0x1f485], "nail_polish nail_care"),
   ([0x1f485, 0x1f3ff], "nail_polish_dark_skin_tone"),
   ([0x1f485, 0x1f3fb], "nail_polish_light_skin_tone"),
   ([0x1f485, 0x1f3fe], "nail_polish_medium-dark_skin_tone"),
   ([0x1f485, 0x1f3fc], "nail_polish_medium-light_skin_tone"),
   ([0x1f485, 0x1f3fd], "nail_polish_medium_skin_tone"), ([0x1f4db], "name_badge"),
   ([0x1f3de], "national_park"), ([0x1f922], "nauseated_face"), ([0x1f9ff], "nazar_amulet"),
   ([0x1f454], "necktie"), ([0x1f913], "nerd_face"), ([0x1f610], "neutral_face"),
   ([0x1f311], "new_moon"), ([0x1f31a], "new_moon_face new_moon_with_face"),
   ([0x1f4f0], "newspaper"),
   ([0x23ed], "next_track_button black_right__pointing_double_triangle_with_vertical_bar"),
   ([0x1f303], "night_with_stars"), ([0x1f564], "nine-thirty clock930"),
   ([0x1f558], "nine_o’clock clock9"), ([0x1f6b3], "no_bicycles"), ([0x26d4], "no_entry"),
   ([0x1f6af], "no_littering do_not_litter"), ([0x1f4f5], "no_mobile_phones"),
   ([0x1f51e], "no_one_under_eighteen underage"), ([0x1f6b7], "no_pedestrians"),
   ([0x1f6ad], "no_smoking"), ([0x1f6b1], "non-potable_water non__potable_water"),
   ([0x1f443], "nose"), ([0x1f443, 0x1f3ff], "nose_dark_skin_tone"),
   ([0x1f443, 0x1f3fb], "nose_light_skin_tone"), ([0x1f443, 0x1f3fe], "nose_medium-dark_skin_tone"),
   ([0x1f443, 0x1f3fc], "nose_medium-light_skin_tone"),
   ([0x1f443, 0x1f3fd], "nose_medium_skin_tone"), ([0x1f4d3], "notebook"),
   ([0x1f4d4], "notebook_with_decorative_cover"), ([0x1f529], "nut_and_bolt"),
   ([0x1f419], "octopus"), ([0x1f362], "oden"), ([0x1f3e2], "office_building office"),
   ([0x1f479], "ogre japanese_ogre"), ([0x1f6e2], "oil_drum"), ([0x1f5dd], "old_key"),
   ([0x1f474], "old_man older_man"), ([0x1f474, 0x1f3ff], "old_man_dark_skin_tone"),
   ([0x1f474, 0x1f3fb], "old_man_light_skin_tone"),
   ([0x1f474, 0x1f3fe], "old_man_medium-dark_skin_tone"),
   ([0x1f474, 0x1f3fc], "old_man_medium-light_skin_tone"),
   ([0x1f474, 0x1f3fd], "old_man_medium_skin_tone"), ([0x1f475], "old_woman older_woman"),
   ([0x1f475, 0x1f3ff], "old_woman_dark_skin_tone"),
   ([0x1f475, 0x1f3fb], "old_woman_light_skin_tone"),
   ([0x1f475, 0x1f3fe], "old_woman_medium-dark_skin_tone"),
   ([0x1f475, 0x1f3fc], "old_woman_medium-light_skin_tone"),
   ([0x1f475, 0x1f3fd], "old_woman_medium_skin_tone"), ([0x1f9d3], "older_adult"),
   ([0x1f9d3, 0x1f3ff], "older_adult_dark_skin_tone"),
   ([0x1f9d3, 0x1f3fb], "older_adult_light_skin_tone"),
   ([0x1f9d3, 0x1f3fe], "older_adult_medium-dark_skin_tone"),
   ([0x1f9d3, 0x1f3fc], "older_adult_medium-light_skin_tone"),
   ([0x1f9d3, 0x1f3fd], "older_adult_medium_skin_tone"), ([0x1f549], "om om_symbol"),
   ([0x1f698], "oncoming_automobile"), ([0x1f68d], "oncoming_bus"),
   ([0x1f44a], "oncoming_fist facepunch punch"),
   ([0x1f44a, 0x1f3ff], "oncoming_fist_dark_skin_tone"),
   ([0x1f44a, 0x1f3fb], "oncoming_fist_light_skin_tone"),
   ([0x1f44a, 0x1f3fe], "oncoming_fist_medium-dark_skin_tone"),
   ([0x1f44a, 0x1f3fc], "oncoming_fist_medium-light_skin_tone"),
   ([0x1f44a, 0x1f3fd], "oncoming_fist_medium_skin_tone"), ([0x1f694], "oncoming_police_car"),
   ([0x1f696], "oncoming_taxi"), ([0x1fa71], "one-piece_swimsuit"),
   ([0x1f55c], "one-thirty clock130"), ([0x1f550], "one_o’clock clock1"), ([0x1f9c5], "onion"),
   ([0x1f4d6], "open_book book"), ([0x1f4c2], "open_file_folder"), ([0x1f450], "open_hands"),
   ([0x1f450, 0x1f3ff], "open_hands_dark_skin_tone"),
   ([0x1f450, 0x1f3fb], "open_hands_light_skin_tone"),
   ([0x1f450, 0x1f3fe], "open_hands_medium-dark_skin_tone"),
   ([0x1f450, 0x1f3fc], "open_hands_medium-light_skin_tone"),
   ([0x1f450, 0x1f3fd], "open_hands_medium_skin_tone"),
   ([0x1f4ed], "open_mailbox_with_lowered_flag mailbox_with_no_mail"),
   ([0x1f4ec], "open_mailbox_with_raised_flag mailbox_with_mail"), ([0x1f4bf], "optical_disk cd"),
   ([0x1f4d9], "orange_book"), ([0x1f7e0], "orange_circle"), ([0x1f9e1], "orange_heart"),
   ([0x1f7e7], "orange_square"), ([0x1f9a7], "orangutan"), ([0x2626], "orthodox_cross"),
   ([0x1f9a6], "otter"), ([0x1f4e4], "outbox_tray"), ([0x1f989], "owl"), ([0x1f402], "ox"),
   ([0x1f9aa], "oyster"), ([0x1f4e6], "package"), ([0x1f4c4], "page_facing_up"),
   ([0x1f4c3], "page_with_curl"), ([0x1f4df], "pager"),
   ([0x1f58c], "paintbrush lower_left_paintbrush"), ([0x1f334], "palm_tree"),
   ([0x1f932], "palms_up_together"), ([0x1f932, 0x1f3ff], "palms_up_together_dark_skin_tone"),
   ([0x1f932, 0x1f3fb], "palms_up_together_light_skin_tone"),
   ([0x1f932, 0x1f3fe], "palms_up_together_medium-dark_skin_tone"),
   ([0x1f932, 0x1f3fc], "palms_up_together_medium-light_skin_tone"),
   ([0x1f932, 0x1f3fd], "palms_up_together_medium_skin_tone"), ([0x1f95e], "pancakes"),
   ([0x1f43c], "panda_face"), ([0x1f4ce], "paperclip"), ([0x1f99c], "parrot"),
   ([0x303d], "part_alternation_mark"), ([0x1f389], "party_popper tada"),
   ([0x1f973], "partying_face"), ([0x1f6f3], "passenger_ship"), ([0x1f6c2], "passport_control"),
   ([0x23f8], "pause_button double_vertical_bar"), ([0x1f43e], "paw_prints feet"),
   ([0x262e], "peace_symbol"), ([0x1f351], "peach"), ([0x1f99a], "peacock"), ([0x1f95c], "peanuts"),
   ([0x1f350], "pear"), ([0x1f58a], "pen lower_left_ballpoint_pen"), ([0x1f427], "penguin"),
   ([0x1f614], "pensive_face pensive"),
   ([0x1f9d1, 0x200d, 0x1f91d, 0x200d, 0x1f9d1], "people_holding_hands"),
   ([0x1f46f], "people_with_bunny_ears dancers"), ([0x1f93c], "people_wrestling"),
   ([0x1f3ad], "performing_arts"), ([0x1f623], "persevering_face persevere"),
   ([0x1f6b4], "person_biking bicyclist"), ([0x1f6b4, 0x1f3ff], "person_biking_dark_skin_tone"),
   ([0x1f6b4, 0x1f3fb], "person_biking_light_skin_tone"),
   ([0x1f6b4, 0x1f3fe], "person_biking_medium-dark_skin_tone"),
   ([0x1f6b4, 0x1f3fc], "person_biking_medium-light_skin_tone"),
   ([0x1f6b4, 0x1f3fd], "person_biking_medium_skin_tone"),
   ([0x26f9], "person_bouncing_ball person_with_ball"),
   ([0x26f9, 0x1f3ff], "person_bouncing_ball_dark_skin_tone"),
   ([0x26f9, 0x1f3fb], "person_bouncing_ball_light_skin_tone"),
   ([0x26f9, 0x1f3fe], "person_bouncing_ball_medium-dark_skin_tone"),
   ([0x26f9, 0x1f3fc], "person_bouncing_ball_medium-light_skin_tone"),
   ([0x26f9, 0x1f3fd], "person_bouncing_ball_medium_skin_tone"), ([0x1f647], "person_bowing bow"),
   ([0x1f647, 0x1f3ff], "person_bowing_dark_skin_tone"),
   ([0x1f647, 0x1f3fb], "person_bowing_light_skin_tone"),
   ([0x1f647, 0x1f3fe], "person_bowing_medium-dark_skin_tone"),
   ([0x1f647, 0x1f3fc], "person_bowing_medium-light_skin_tone"),
   ([0x1f647, 0x1f3fd], "person_bowing_medium_skin_tone"), ([0x1f938], "person_cartwheeling"),
   ([0x1f938, 0x1f3ff], "person_cartwheeling_dark_skin_tone"),
   ([0x1f938, 0x1f3fb], "person_cartwheeling_light_skin_tone"),
   ([0x1f938, 0x1f3fe], "person_cartwheeling_medium-dark_skin_tone"),
   ([0x1f938, 0x1f3fc], "person_cartwheeling_medium-light_skin_tone"),
   ([0x1f938, 0x1f3fd], "person_cartwheeling_medium_skin_tone"), ([0x1f9d7], "person_climbing"),
   ([0x1f9d7, 0x1f3ff], "person_climbing_dark_skin_tone"),
   ([0x1f9d7, 0x1f3fb], "person_climbing_light_skin_tone"),
   ([0x1f9d7, 0x1f3fe], "person_climbing_medium-dark_skin_tone"),
   ([0x1f9d7, 0x1f3fc], "person_climbing_medium-light_skin_tone"),
   ([0x1f9d7, 0x1f3fd], "person_climbing_medium_skin_tone"), ([0x1f926], "person_facepalming"),
   ([0x1f926, 0x1f3ff], "person_facepalming_dark_skin_tone"),
   ([0x1f926, 0x1f3fb], "person_facepalming_light_skin_tone"),
   ([0x1f926, 0x1f3fe], "person_facepalming_medium-dark_skin_tone"),
   ([0x1f926, 0x1f3fc], "person_facepalming_medium-light_skin_tone"),
   ([0x1f926, 0x1f3fd], "person_facepalming_medium_skin_tone"), ([0x1f93a], "person_fencing"),
   ([0x1f64d], "person_frowning"), ([0x1f64d, 0x1f3ff], "person_frowning_dark_skin_tone"),
   ([0x1f64d, 0x1f3fb], "person_frowning_light_skin_tone"),
   ([0x1f64d, 0x1f3fe], "person_frowning_medium-dark_skin_tone"),
   ([0x1f64d, 0x1f3fc], "person_frowning_medium-light_skin_tone"),
   ([0x1f64d, 0x1f3fd], "person_frowning_medium_skin_tone"),
   ([0x1f645], "person_gesturing_no no_good"),
   ([0x1f645, 0x1f3ff], "person_gesturing_no_dark_skin_tone"),
   ([0x1f645, 0x1f3fb], "person_gesturing_no_light_skin_tone"),
   ([0x1f645, 0x1f3fe], "person_gesturing_no_medium-dark_skin_tone"),
   ([0x1f645, 0x1f3fc], "person_gesturing_no_medium-light_skin_tone"),
   ([0x1f645, 0x1f3fd], "person_gesturing_no_medium_skin_tone"),
   ([0x1f646], "person_gesturing_ok ok_woman"),
   ([0x1f646, 0x1f3ff], "person_gesturing_ok_dark_skin_tone"),
   ([0x1f646, 0x1f3fb], "person_gesturing_ok_light_skin_tone"),
   ([0x1f646, 0x1f3fe], "person_gesturing_ok_medium-dark_skin_tone"),
   ([0x1f646, 0x1f3fc], "person_gesturing_ok_medium-light_skin_tone"),
   ([0x1f646, 0x1f3fd], "person_gesturing_ok_medium_skin_tone"),
   ([0x1f487], "person_getting_haircut haircut"),
   ([0x1f487, 0x1f3ff], "person_getting_haircut_dark_skin_tone"),
   ([0x1f487, 0x1f3fb], "person_getting_haircut_light_skin_tone"),
   ([0x1f487, 0x1f3fe], "person_getting_haircut_medium-dark_skin_tone"),
   ([0x1f487, 0x1f3fc], "person_getting_haircut_medium-light_skin_tone"),
   ([0x1f487, 0x1f3fd], "person_getting_haircut_medium_skin_tone"),
   ([0x1f486], "person_getting_massage massage"),
   ([0x1f486, 0x1f3ff], "person_getting_massage_dark_skin_tone"),
   ([0x1f486, 0x1f3fb], "person_getting_massage_light_skin_tone"),
   ([0x1f486, 0x1f3fe], "person_getting_massage_medium-dark_skin_tone"),
   ([0x1f486, 0x1f3fc], "person_getting_massage_medium-light_skin_tone"),
   ([0x1f486, 0x1f3fd], "person_getting_massage_medium_skin_tone"),
   ([0x1f3cc], "person_golfing golfer"), ([0x1f3cc, 0x1f3ff], "person_golfing_dark_skin_tone"),
   ([0x1f3cc, 0x1f3fb], "person_golfing_light_skin_tone"),
   ([0x1f3cc, 0x1f3fe], "person_golfing_medium-dark_skin_tone"),
   ([0x1f3cc, 0x1f3fc], "person_golfing_medium-light_skin_tone"),
   ([0x1f3cc, 0x1f3fd], "person_golfing_medium_skin_tone"),
   ([0x1f6cc], "person_in_bed sleeping_accommodation"),
   ([0x1f6cc, 0x1f3ff], "person_in_bed_dark_skin_tone"),
   ([0x1f6cc, 0x1f3fb], "person_in_bed_light_skin_tone"),
   ([0x1f6cc, 0x1f3fe], "person_in_bed_medium-dark_skin_tone"),
   ([0x1f6cc, 0x1f3fc], "person_in_bed_medium-light_skin_tone"),
   ([0x1f6cc, 0x1f3fd], "person_in_bed_medium_skin_tone"), ([0x1f9d8], "person_in_lotus_position"),
   ([0x1f9d8, 0x1f3ff], "person_in_lotus_position_dark_skin_tone"),
   ([0x1f9d8, 0x1f3fb], "person_in_lotus_position_light_skin_tone"),
   ([0x1f9d8, 0x1f3fe], "person_in_lotus_position_medium-dark_skin_tone"),
   ([0x1f9d8, 0x1f3fc], "person_in_lotus_position_medium-light_skin_tone"),
   ([0x1f9d8, 0x1f3fd], "person_in_lotus_position_medium_skin_tone"),
   ([0x1f9d6], "person_in_steamy_room"),
   ([0x1f9d6, 0x1f3ff], "person_in_steamy_room_dark_skin_tone"),
   ([0x1f9d6, 0x1f3fb], "person_in_steamy_room_light_skin_tone"),
   ([0x1f9d6, 0x1f3fe], "person_in_steamy_room_medium-dark_skin_tone"),
   ([0x1f9d6, 0x1f3fc], "person_in_steamy_room_medium-light_skin_tone"),
   ([0x1f9d6, 0x1f3fd], "person_in_steamy_room_medium_skin_tone"), ([0x1f939], "person_juggling"),
   ([0x1f939, 0x1f3ff], "person_juggling_dark_skin_tone"),
   ([0x1f939, 0x1f3fb], "person_juggling_light_skin_tone"),
   ([0x1f939, 0x1f3fe], "person_juggling_medium-dark_skin_tone"),
   ([0x1f939, 0x1f3fc], "person_juggling_medium-light_skin_tone"),
   ([0x1f939, 0x1f3fd], "person_juggling_medium_skin_tone"), ([0x1f9ce], "person_kneeling"),
   ([0x1f3cb], "person_lifting_weights weight_lifter"),
   ([0x1f3cb, 0x1f3ff], "person_lifting_weights_dark_skin_tone"),
   ([0x1f3cb, 0x1f3fb], "person_lifting_weights_light_skin_tone"),
   ([0x1f3cb, 0x1f3fe], "person_lifting_weights_medium-dark_skin_tone"),
   ([0x1f3cb, 0x1f3fc], "person_lifting_weights_medium-light_skin_tone"),
   ([0x1f3cb, 0x1f3fd], "person_lifting_weights_medium_skin_tone"),
   ([0x1f6b5], "person_mountain_biking mountain_bicyclist"),
   ([0x1f6b5, 0x1f3ff], "person_mountain_biking_dark_skin_tone"),
   ([0x1f6b5, 0x1f3fb], "person_mountain_biking_light_skin_tone"),
   ([0x1f6b5, 0x1f3fe], "person_mountain_biking_medium-dark_skin_tone"),
   ([0x1f6b5, 0x1f3fc], "person_mountain_biking_medium-light_skin_tone"),
   ([0x1f6b5, 0x1f3fd], "person_mountain_biking_medium_skin_tone"),
   ([0x1f93e], "person_playing_handball"),
   ([0x1f93e, 0x1f3ff], "person_playing_handball_dark_skin_tone"),
   ([0x1f93e, 0x1f3fb], "person_playing_handball_light_skin_tone"),
   ([0x1f93e, 0x1f3fe], "person_playing_handball_medium-dark_skin_tone"),
   ([0x1f93e, 0x1f3fc], "person_playing_handball_medium-light_skin_tone"),
   ([0x1f93e, 0x1f3fd], "person_playing_handball_medium_skin_tone"),
   ([0x1f93d], "person_playing_water_polo"),
   ([0x1f93d, 0x1f3ff], "person_playing_water_polo_dark_skin_tone"),
   ([0x1f93d, 0x1f3fb], "person_playing_water_polo_light_skin_tone"),
   ([0x1f93d, 0x1f3fe], "person_playing_water_polo_medium-dark_skin_tone"),
   ([0x1f93d, 0x1f3fc], "person_playing_water_polo_medium-light_skin_tone"),
   ([0x1f93d, 0x1f3fd], "person_playing_water_polo_medium_skin_tone"),
   ([0x1f64e], "person_pouting person_with_pouting_face"),
   ([0x1f64e, 0x1f3ff], "person_pouting_dark_skin_tone"),
   ([0x1f64e, 0x1f3fb], "person_pouting_light_skin_tone"),
   ([0x1f64e, 0x1f3fe], "person_pouting_medium-dark_skin_tone"),
   ([0x1f64e, 0x1f3fc], "person_pouting_medium-light_skin_tone"),
   ([0x1f64e, 0x1f3fd], "person_pouting_medium_skin_tone"),
   ([0x1f64b], "person_raising_hand raising_hand"),
   ([0x1f64b, 0x1f3ff], "person_raising_hand_dark_skin_tone"),
   ([0x1f64b, 0x1f3fb], "person_raising_hand_light_skin_tone"),
   ([0x1f64b, 0x1f3fe], "person_raising_hand_medium-dark_skin_tone"),
   ([0x1f64b, 0x1f3fc], "person_raising_hand_medium-light_skin_tone"),
   ([0x1f64b, 0x1f3fd], "person_raising_hand_medium_skin_tone"),
   ([0x1f6a3], "person_rowing_boat rowboat"),
   ([0x1f6a3, 0x1f3ff], "person_rowing_boat_dark_skin_tone"),
   ([0x1f6a3, 0x1f3fb], "person_rowing_boat_light_skin_tone"),
   ([0x1f6a3, 0x1f3fe], "person_rowing_boat_medium-dark_skin_tone"),
   ([0x1f6a3, 0x1f3fc], "person_rowing_boat_medium-light_skin_tone"),
   ([0x1f6a3, 0x1f3fd], "person_rowing_boat_medium_skin_tone"),
   ([0x1f3c3], "person_running runner running"),
   ([0x1f3c3, 0x1f3ff], "person_running_dark_skin_tone"),
   ([0x1f3c3, 0x1f3fb], "person_running_light_skin_tone"),
   ([0x1f3c3, 0x1f3fe], "person_running_medium-dark_skin_tone"),
   ([0x1f3c3, 0x1f3fc], "person_running_medium-light_skin_tone"),
   ([0x1f3c3, 0x1f3fd], "person_running_medium_skin_tone"), ([0x1f937], "person_shrugging"),
   ([0x1f937, 0x1f3ff], "person_shrugging_dark_skin_tone"),
   ([0x1f937, 0x1f3fb], "person_shrugging_light_skin_tone"),
   ([0x1f937, 0x1f3fe], "person_shrugging_medium-dark_skin_tone"),
   ([0x1f937, 0x1f3fc], "person_shrugging_medium-light_skin_tone"),
   ([0x1f937, 0x1f3fd], "person_shrugging_medium_skin_tone"), ([0x1f9cd], "person_standing"),
   ([0x1f3c4], "person_surfing surfer"), ([0x1f3c4, 0x1f3ff], "person_surfing_dark_skin_tone"),
   ([0x1f3c4, 0x1f3fb], "person_surfing_light_skin_tone"),
   ([0x1f3c4, 0x1f3fe], "person_surfing_medium-dark_skin_tone"),
   ([0x1f3c4, 0x1f3fc], "person_surfing_medium-light_skin_tone"),
   ([0x1f3c4, 0x1f3fd], "person_surfing_medium_skin_tone"), ([0x1f3ca], "person_swimming swimmer"),
   ([0x1f3ca, 0x1f3ff], "person_swimming_dark_skin_tone"),
   ([0x1f3ca, 0x1f3fb], "person_swimming_light_skin_tone"),
   ([0x1f3ca, 0x1f3fe], "person_swimming_medium-dark_skin_tone"),
   ([0x1f3ca, 0x1f3fc], "person_swimming_medium-light_skin_tone"),
   ([0x1f3ca, 0x1f3fd], "person_swimming_medium_skin_tone"), ([0x1f6c0], "person_taking_bath bath"),
   ([0x1f6c0, 0x1f3ff], "person_taking_bath_dark_skin_tone"),
   ([0x1f6c0, 0x1f3fb], "person_taking_bath_light_skin_tone"),
   ([0x1f6c0, 0x1f3fe], "person_taking_bath_medium-dark_skin_tone"),
   ([0x1f6c0, 0x1f3fc], "person_taking_bath_medium-light_skin_tone"),
   ([0x1f6c0, 0x1f3fd], "person_taking_bath_medium_skin_tone"),
   ([0x1f481], "person_tipping_hand information_desk_person"),
   ([0x1f481, 0x1f3ff], "person_tipping_hand_dark_skin_tone"),
   ([0x1f481, 0x1f3fb], "person_tipping_hand_light_skin_tone"),
   ([0x1f481, 0x1f3fe], "person_tipping_hand_medium-dark_skin_tone"),
   ([0x1f481, 0x1f3fc], "person_tipping_hand_medium-light_skin_tone"),
   ([0x1f481, 0x1f3fd], "person_tipping_hand_medium_skin_tone"),
   ([0x1f6b6], "person_walking walking"), ([0x1f6b6, 0x1f3ff], "person_walking_dark_skin_tone"),
   ([0x1f6b6, 0x1f3fb], "person_walking_light_skin_tone"),
   ([0x1f6b6, 0x1f3fe], "person_walking_medium-dark_skin_tone"),
   ([0x1f6b6, 0x1f3fc], "person_walking_medium-light_skin_tone"),
   ([0x1f6b6, 0x1f3fd], "person_walking_medium_skin_tone"),
   ([0x1f473], "person_wearing_turban man_with_turban"),
   ([0x1f473, 0x1f3ff], "person_wearing_turban_dark_skin_tone"),
   ([0x1f473, 0x1f3fb], "person_wearing_turban_light_skin_tone"),
   ([0x1f473, 0x1f3fe], "person_wearing_turban_medium-dark_skin_tone"),
   ([0x1f473, 0x1f3fc], "person_wearing_turban_medium-light_skin_tone"),
   ([0x1f473, 0x1f3fd], "person_wearing_turban_medium_skin_tone"), ([0x1f9eb], "petri_dish"),
   ([0x26cf], "pick"), ([0x1f967], "pie"), ([0x1f437], "pig pig_face"), ([0x1f43d], "pig_nose"),
   ([0x1f4a9], "pile_of_poo hankey poop shit"), ([0x1f48a], "pill"), ([0x1f90f], "pinching_hand"),
   ([0x1f38d], "pine_decoration bamboo"), ([0x1f34d], "pineapple"),
   ([0x1f3d3], "ping_pong table_tennis_paddle_and_ball"),
   ([0x1f3f4, 0x200d, 0x2620, 0xfe0f], "pirate_flag"), ([0x1f52b], "pistol gun"),
   ([0x1f355], "pizza"), ([0x1f6d0], "place_of_worship"), ([0x25b6], "play_button arrow_forward"),
   ([0x23ef], "play_or_pause_button black_right__pointing_triangle_with_double_vertical_bar"),
   ([0x1f97a], "pleading_face"), ([0x1f693], "police_car"),
   ([0x1f6a8], "police_car_light rotating_light"), ([0x1f46e], "police_officer cop"),
   ([0x1f46e, 0x1f3ff], "police_officer_dark_skin_tone"),
   ([0x1f46e, 0x1f3fb], "police_officer_light_skin_tone"),
   ([0x1f46e, 0x1f3fe], "police_officer_medium-dark_skin_tone"),
   ([0x1f46e, 0x1f3fc], "police_officer_medium-light_skin_tone"),
   ([0x1f46e, 0x1f3fd], "police_officer_medium_skin_tone"), ([0x1f429], "poodle"),
   ([0x1f3b1], "pool_8_ball 8ball"), ([0x1f37f], "popcorn"), ([0x1f4ef], "postal_horn"),
   ([0x1f4ee], "postbox"), ([0x1f372], "pot_of_food stew"), ([0x1f6b0], "potable_water"),
   ([0x1f954], "potato"), ([0x1f357], "poultry_leg"), ([0x1f4b7], "pound_banknote pound"),
   ([0x1f63e], "pouting_cat_face pouting_cat"), ([0x1f621], "pouting_face rage"),
   ([0x1f4ff], "prayer_beads"), ([0x1f930], "pregnant_woman"),
   ([0x1f930, 0x1f3ff], "pregnant_woman_dark_skin_tone"),
   ([0x1f930, 0x1f3fb], "pregnant_woman_light_skin_tone"),
   ([0x1f930, 0x1f3fe], "pregnant_woman_medium-dark_skin_tone"),
   ([0x1f930, 0x1f3fc], "pregnant_woman_medium-light_skin_tone"),
   ([0x1f930, 0x1f3fd], "pregnant_woman_medium_skin_tone"), ([0x1f968], "pretzel"),
   ([0x1f9af], "probing_cane"), ([0x1f934], "prince"),
   ([0x1f934, 0x1f3ff], "prince_dark_skin_tone"), ([0x1f934, 0x1f3fb], "prince_light_skin_tone"),
   ([0x1f934, 0x1f3fe], "prince_medium-dark_skin_tone"),
   ([0x1f934, 0x1f3fc], "prince_medium-light_skin_tone"),
   ([0x1f934, 0x1f3fd], "prince_medium_skin_tone"), ([0x1f478], "princess"),
   ([0x1f478, 0x1f3ff], "princess_dark_skin_tone"),
   ([0x1f478, 0x1f3fb], "princess_light_skin_tone"),
   ([0x1f478, 0x1f3fe], "princess_medium-dark_skin_tone"),
   ([0x1f478, 0x1f3fc], "princess_medium-light_skin_tone"),
   ([0x1f478, 0x1f3fd], "princess_medium_skin_tone"), ([0x1f5a8], "printer"),
   ([0x1f6ab], "prohibited no_entry_sign"), ([0x1f7e3], "purple_circle"),
   ([0x1f49c], "purple_heart"), ([0x1f7ea], "purple_square"), ([0x1f45b], "purse"),
   ([0x1f4cc], "pushpin"), ([0x2753], "question_mark question"), ([0x1f430], "rabbit rabbit_face"),
   ([0x1f99d], "raccoon"), ([0x1f3ce], "racing_car"), ([0x1f4fb], "radio"),
   ([0x1f518], "radio_button"), ([0x2622], "radioactive radioactive_sign"),
   ([0x1f683], "railway_car"), ([0x1f6e4], "railway_track"), ([0x1f308], "rainbow"),
   ([0x1f3f3, 0xfe0f, 0x200d, 0x1f308], "rainbow_flag"), ([0x1f91a], "raised_back_of_hand"),
   ([0x1f91a, 0x1f3ff], "raised_back_of_hand_dark_skin_tone"),
   ([0x1f91a, 0x1f3fb], "raised_back_of_hand_light_skin_tone"),
   ([0x1f91a, 0x1f3fe], "raised_back_of_hand_medium-dark_skin_tone"),
   ([0x1f91a, 0x1f3fc], "raised_back_of_hand_medium-light_skin_tone"),
   ([0x1f91a, 0x1f3fd], "raised_back_of_hand_medium_skin_tone"), ([0x270a], "raised_fist fist"),
   ([0x270a, 0x1f3ff], "raised_fist_dark_skin_tone"),
   ([0x270a, 0x1f3fb], "raised_fist_light_skin_tone"),
   ([0x270a, 0x1f3fe], "raised_fist_medium-dark_skin_tone"),
   ([0x270a, 0x1f3fc], "raised_fist_medium-light_skin_tone"),
   ([0x270a, 0x1f3fd], "raised_fist_medium_skin_tone"), ([0x270b], "raised_hand hand"),
   ([0x270b, 0x1f3ff], "raised_hand_dark_skin_tone"),
   ([0x270b, 0x1f3fb], "raised_hand_light_skin_tone"),
   ([0x270b, 0x1f3fe], "raised_hand_medium-dark_skin_tone"),
   ([0x270b, 0x1f3fc], "raised_hand_medium-light_skin_tone"),
   ([0x270b, 0x1f3fd], "raised_hand_medium_skin_tone"), ([0x1f64c], "raising_hands raised_hands"),
   ([0x1f64c, 0x1f3ff], "raising_hands_dark_skin_tone"),
   ([0x1f64c, 0x1f3fb], "raising_hands_light_skin_tone"),
   ([0x1f64c, 0x1f3fe], "raising_hands_medium-dark_skin_tone"),
   ([0x1f64c, 0x1f3fc], "raising_hands_medium-light_skin_tone"),
   ([0x1f64c, 0x1f3fd], "raising_hands_medium_skin_tone"), ([0x1f40f], "ram"), ([0x1f400], "rat"),
   ([0x1fa92], "razor"), ([0x1fa90], "ringed_planet"), ([0x1f9fe], "receipt"),
   ([0x23fa], "record_button black_circle_for_record"), ([0x267b], "recycling_symbol recycle"),
   ([0x1f34e], "red_apple apple"), ([0x1f534], "red_circle"), ([0x1f9e7], "red_envelope"),
   ([0x1f9b0], "red_hair"), ([0x1f468, 0x200d, 0x1f9b0], "red-haired_man"),
   ([0x1f469, 0x200d, 0x1f9b0], "red-haired_woman"), ([0x2764], "red_heart heart"),
   ([0x1f3ee], "red_paper_lantern izakaya_lantern lantern"), ([0x1f7e5], "red_square"),
   ([0x1f53b], "red_triangle_pointed_down small_red_triangle_down"),
   ([0x1f53a], "red_triangle_pointed_up small_red_triangle"), ([0xae], "registered"),
   ([0x1f60c], "relieved_face relieved"), ([0x1f397], "reminder_ribbon"),
   ([0x1f501], "repeat_button repeat"), ([0x1f502], "repeat_single_button repeat_one"),
   ([0x26d1], "rescue_worker’s_helmet helmet_with_white_cross"), ([0x1f6bb], "restroom"),
   ([0x25c0], "reverse_button arrow_backward"), ([0x1f49e], "revolving_hearts"),
   ([0x1f98f], "rhinoceros"), ([0x1f380], "ribbon"), ([0x1f359], "rice_ball"),
   ([0x1f358], "rice_cracker"), ([0x1f91c], "right-facing_fist"),
   ([0x1f91c, 0x1f3ff], "right-facing_fist_dark_skin_tone"),
   ([0x1f91c, 0x1f3fb], "right-facing_fist_light_skin_tone"),
   ([0x1f91c, 0x1f3fe], "right-facing_fist_medium-dark_skin_tone"),
   ([0x1f91c, 0x1f3fc], "right-facing_fist_medium-light_skin_tone"),
   ([0x1f91c, 0x1f3fd], "right-facing_fist_medium_skin_tone"), ([0x1f5ef], "right_anger_bubble"),
   ([0x27a1], "right_arrow arrow_right"), ([0x2935], "right_arrow_curving_down arrow_heading_down"),
   ([0x21a9], "right_arrow_curving_left leftwards_arrow_with_hook"),
   ([0x2934], "right_arrow_curving_up arrow_heading_up"), ([0x1f48d], "ring"),
   ([0x1f360], "roasted_sweet_potato sweet_potato"), ([0x1f916], "robot_face robot"),
   ([0x1f680], "rocket"), ([0x1f9fb], "roll_of_paper"),
   ([0x1f5de], "rolled-up_newspaper rolled__up_newspaper"), ([0x1f3a2], "roller_coaster"),
   ([0x1f923], "rolling_on_the_floor_laughing"), ([0x1f413], "rooster"), ([0x1f339], "rose"),
   ([0x1f3f5], "rosette"), ([0x1f4cd], "round_pushpin"), ([0x1f3c9], "rugby_football"),
   ([0x1f3bd], "running_shirt running_shirt_with_sash"), ([0x1f45f], "running_shoe athletic_shoe"),
   ([0x1f625], "sad_but_relieved_face disappointed_relieved"), ([0x1f9f7], "safety_pin"),
   ([0x1f9ba], "safety_vest"), ([0x1f9c2], "salt"), ([0x26f5], "sailboat boat"),
   ([0x1f376], "sake"), ([0x1f96a], "sandwich"), ([0x1f97b], "sari"),
   ([0x1f4e1], "satellite satellite_antenna"), ([0x1f995], "sauropod"), ([0x1f3b7], "saxophone"),
   ([0x1f9e3], "scarf"), ([0x1f3eb], "school"), ([0x1f392], "school_backpack school_satchel"),
   ([0x2702], "scissors"), ([0x1f982], "scorpion"), ([0x1f4dc], "scroll"), ([0x1f4ba], "seat"),
   ([0x1f648], "see-no-evil_monkey see_no_evil"), ([0x1f331], "seedling"), ([0x1f933], "selfie"),
   ([0x1f933, 0x1f3ff], "selfie_dark_skin_tone"), ([0x1f933, 0x1f3fb], "selfie_light_skin_tone"),
   ([0x1f933, 0x1f3fe], "selfie_medium-dark_skin_tone"),
   ([0x1f933, 0x1f3fc], "selfie_medium-light_skin_tone"),
   ([0x1f933, 0x1f3fd], "selfie_medium_skin_tone"), ([0x1f415, 0x200d, 0x1f9ba], "service_dog"),
   ([0x1f562], "seven-thirty clock730"), ([0x1f556], "seven_o’clock clock7"),
   ([0x1f958], "shallow_pan_of_food"), ([0x2618], "shamrock"), ([0x1f988], "shark"),
   ([0x1f367], "shaved_ice"), ([0x1f33e], "sheaf_of_rice ear_of_rice"), ([0x1f6e1], "shield"),
   ([0x26e9], "shinto_shrine"), ([0x1f6a2], "ship"), ([0x1f320], "shooting_star stars"),
   ([0x1f6cd], "shopping_bags"), ([0x1f6d2], "shopping_cart"), ([0x1f370], "shortcake cake"),
   ([0x1fa73], "shorts"), ([0x1f6bf], "shower"), ([0x1f990], "shrimp"),
   ([0x1f500], "shuffle_tracks_button twisted_rightwards_arrows"), ([0x1f92b], "shushing_face"),
   ([0x1f918], "sign_of_the_horns"), ([0x1f918, 0x1f3ff], "sign_of_the_horns_dark_skin_tone"),
   ([0x1f918, 0x1f3fb], "sign_of_the_horns_light_skin_tone"),
   ([0x1f918, 0x1f3fe], "sign_of_the_horns_medium-dark_skin_tone"),
   ([0x1f918, 0x1f3fc], "sign_of_the_horns_medium-light_skin_tone"),
   ([0x1f918, 0x1f3fd], "sign_of_the_horns_medium_skin_tone"), ([0x1f561], "six-thirty clock630"),
   ([0x1f555], "six_o’clock clock6"), ([0x1f6f9], "skateboard"), ([0x26f7], "skier"),
   ([0x1f3bf], "skis ski"), ([0x1f480], "skull"), ([0x2620], "skull_and_crossbones"),
   ([0x1f9a8], "skunk"), ([0x1f6f7], "sled"), ([0x1f634], "sleeping_face sleeping"),
   ([0x1f62a], "sleepy_face sleepy"), ([0x1f641], "slightly_frowning_face"),
   ([0x1f642], "slightly_smiling_face"), ([0x1f3b0], "slot_machine"), ([0x1f9a5], "sloth"),
   ([0x1f6e9], "small_airplane"), ([0x1f539], "small_blue_diamond"),
   ([0x1f538], "small_orange_diamond"),
   ([0x1f63b], "smiling_cat_face_with_heart-eyes heart_eyes_cat"),
   ([0x263a], "smiling_face relaxed"), ([0x1f607], "smiling_face_with_halo innocent"),
   ([0x1f970], "smiling_face_with_3_hearts"),
   ([0x1f60d], "smiling_face_with_heart-eyes heart_eyes"),
   ([0x1f608], "smiling_face_with_horns smiling_imp"),
   ([0x1f60a], "smiling_face_with_smiling_eyes blush"),
   ([0x1f60e], "smiling_face_with_sunglasses sunglasses"), ([0x1f60f], "smirking_face smirk"),
   ([0x1f40c], "snail"), ([0x1f40d], "snake"), ([0x1f927], "sneezing_face"),
   ([0x1f3d4], "snow-capped_mountain snow_capped_mountain"), ([0x1f3c2], "snowboarder"),
   ([0x1f3c2, 0x1f3ff], "snowboarder_dark_skin_tone"),
   ([0x1f3c2, 0x1f3fb], "snowboarder_light_skin_tone"),
   ([0x1f3c2, 0x1f3fe], "snowboarder_medium-dark_skin_tone"),
   ([0x1f3c2, 0x1f3fc], "snowboarder_medium-light_skin_tone"),
   ([0x1f3c2, 0x1f3fd], "snowboarder_medium_skin_tone"), ([0x2744], "snowflake"),
   ([0x2603], "snowman"), ([0x26c4], "snowman_without_snow"), ([0x1f9fc], "soap"),
   ([0x26bd], "soccer_ball soccer"), ([0x1f9e6], "socks"), ([0x1f94e], "softball"),
   ([0x1f366], "soft_ice_cream icecream"), ([0x2660], "spade_suit spades"),
   ([0x1f35d], "spaghetti"), ([0x2747], "sparkle"), ([0x1f387], "sparkler"), ([0x2728], "sparkles"),
   ([0x1f496], "sparkling_heart"), ([0x1f64a], "speak-no-evil_monkey speak_no_evil"),
   ([0x1f50a], "speaker_high_volume loud_sound"), ([0x1f508], "speaker_low_volume speaker"),
   ([0x1f509], "speaker_medium_volume sound"),
   ([0x1f5e3], "speaking_head speaking_head_in_silhouette"), ([0x1f4ac], "speech_balloon"),
   ([0x1f6a4], "speedboat"), ([0x1f577], "spider"), ([0x1f578], "spider_web"),
   ([0x1f5d3], "spiral_calendar spiral_calendar_pad"),
   ([0x1f5d2], "spiral_notepad spiral_note_pad"), ([0x1f41a], "spiral_shell shell"),
   ([0x1f944], "spoon"), ([0x1f9fd], "sponge"), ([0x1f699], "sport_utility_vehicle blue_car"),
   ([0x1f3c5], "sports_medal"), ([0x1f433], "spouting_whale whale"), ([0x1f991], "squid"),
   ([0x1f61d], "squinting_face_with_tongue stuck_out_tongue_closed_eyes"), ([0x1f3df], "stadium"),
   ([0x1f929], "star-struck"), ([0x262a], "star_and_crescent"), ([0x2721], "star_of_david"),
   ([0x1f689], "station"), ([0x1f35c], "steaming_bowl ramen"), ([0x1fa7a], "stethoscope"),
   ([0x23f9], "stop_button black_square_for_stop"), ([0x1f6d1], "stop_sign"),
   ([0x23f1], "stopwatch"), ([0x1f4cf], "straight_ruler"), ([0x1f353], "strawberry"),
   ([0x1f399], "studio_microphone"), ([0x1f959], "stuffed_flatbread"), ([0x2600], "sun sunny"),
   ([0x26c5], "sun_behind_cloud partly_sunny"),
   ([0x1f325], "sun_behind_large_cloud white_sun_behind_cloud"),
   ([0x1f326], "sun_behind_rain_cloud white_sun_behind_cloud_with_rain"),
   ([0x1f324], "sun_behind_small_cloud white_sun_with_small_cloud"), ([0x1f31e], "sun_with_face"),
   ([0x1f33b], "sunflower"), ([0x1f305], "sunrise"), ([0x1f304], "sunrise_over_mountains"),
   ([0x1f307], "sunset city_sunrise"), ([0x1f9b8], "superhero"), ([0x1f9b9], "supervillain"),
   ([0x1f363], "sushi"), ([0x1f69f], "suspension_railway"), ([0x1f9a2], "swan"),
   ([0x1f4a6], "sweat_droplets sweat_drops"), ([0x1f54d], "synagogue"), ([0x1f489], "syringe"),
   ([0x1f455], "t-shirt shirt tshirt"), ([0x1f32e], "taco"), ([0x1f961], "takeout_box"),
   ([0x1f38b], "tanabata_tree"), ([0x1f34a], "tangerine"), ([0x1f695], "taxi"),
   ([0x1f375], "teacup_without_handle tea"), ([0x1f9f8], "teddy_bear"),
   ([0x260e], "telephone phone"), ([0x1f4de], "telephone_receiver"), ([0x1f52d], "telescope"),
   ([0x1f4fa], "television tv"), ([0x1f565], "ten-thirty clock1030"),
   ([0x1f559], "ten_o’clock clock10"), ([0x1f3be], "tennis"), ([0x26fa], "tent"),
   ([0x1f9ea], "test_tube"), ([0x1f321], "thermometer"), ([0x1f914], "thinking_face"),
   ([0x1f4ad], "thought_balloon"), ([0x1f9f5], "thread"), ([0x1f55e], "three-thirty clock330"),
   ([0x1f552], "three_o’clock clock3"), ([0x1f44e], "thumbs_down __1 -1 thumbsdown"),
   ([0x1f44e, 0x1f3ff], "thumbs_down_dark_skin_tone"),
   ([0x1f44e, 0x1f3fb], "thumbs_down_light_skin_tone"),
   ([0x1f44e, 0x1f3fe], "thumbs_down_medium-dark_skin_tone"),
   ([0x1f44e, 0x1f3fc], "thumbs_down_medium-light_skin_tone"),
   ([0x1f44e, 0x1f3fd], "thumbs_down_medium_skin_tone"), ([0x1f44d], "thumbs_up +1 thumbsup"),
   ([0x1f44d, 0x1f3ff], "thumbs_up_dark_skin_tone"),
   ([0x1f44d, 0x1f3fb], "thumbs_up_light_skin_tone"),
   ([0x1f44d, 0x1f3fe], "thumbs_up_medium-dark_skin_tone"),
   ([0x1f44d, 0x1f3fc], "thumbs_up_medium-light_skin_tone"),
   ([0x1f44d, 0x1f3fd], "thumbs_up_medium_skin_tone"), ([0x1f3ab], "ticket"),
   ([0x1f42f], "tiger tiger_face"), ([0x23f2], "timer_clock"), ([0x1f62b], "tired_face"),
   ([0x1f9f0], "toolbox"), ([0x1f6bd], "toilet"), ([0x1f345], "tomato"), ([0x1f445], "tongue"),
   ([0x1f9b7], "tooth"), ([0x1f3a9], "top_hat tophat"), ([0x1f32a], "tornado cloud_with_tornado"),
   ([0x1f5b2], "trackball"), ([0x1f69c], "tractor"), ([0x2122], "trade_mark tm"),
   ([0x1f68b], "train tram_car"), ([0x1f68a], "tram"),
   ([0x1f6a9], "triangular_flag triangular_flag_on_post"), ([0x1f4d0], "triangular_ruler"),
   ([0x1f531], "trident_emblem trident"), ([0x1f68e], "trolleybus"), ([0x1f3c6], "trophy"),
   ([0x1f379], "tropical_drink"), ([0x1f420], "tropical_fish"), ([0x1f3ba], "trumpet"),
   ([0x1f337], "tulip"), ([0x1f943], "tumbler_glass"), ([0x1f422], "turtle"),
   ([0x1f567], "twelve-thirty clock1230"), ([0x1f55b], "twelve_o’clock clock12"),
   ([0x1f55d], "two-thirty clock230"), ([0x1f495], "two_hearts"),
   ([0x1f46c], "two_men_holding_hands"), ([0x1f551], "two_o’clock clock2"),
   ([0x1f46d], "two_women_holding_hands"), ([0x2602], "umbrella"), ([0x26f1], "umbrella_on_ground"),
   ([0x2614], "umbrella_with_rain_drops"), ([0x1f612], "unamused_face unamused"),
   ([0x1f984], "unicorn_face"), ([0x1f513], "unlocked unlock"),
   ([0x2195], "up-down_arrow arrow_up_down"), ([0x2196], "up-left_arrow arrow_upper_left"),
   ([0x2197], "up-right_arrow arrow_upper_right"), ([0x2b06], "up_arrow arrow_up"),
   ([0x1f643], "upside-down_face upside__down_face"), ([0x1f53c], "upwards_button arrow_up_small"),
   ([0x1f9db], "vampire"), ([0x1f9db, 0x1f3ff], "vampire_dark_skin_tone"),
   ([0x1f9db, 0x1f3fb], "vampire_light_skin_tone"),
   ([0x1f9db, 0x1f3fe], "vampire_medium-dark_skin_tone"),
   ([0x1f9db, 0x1f3fc], "vampire_medium-light_skin_tone"),
   ([0x1f9db, 0x1f3fd], "vampire_medium_skin_tone"), ([0x1f6a6], "vertical_traffic_light"),
   ([0x1f4f3], "vibration_mode"), ([0x270c], "victory_hand v"),
   ([0x270c, 0x1f3ff], "victory_hand_dark_skin_tone"),
   ([0x270c, 0x1f3fb], "victory_hand_light_skin_tone"),
   ([0x270c, 0x1f3fe], "victory_hand_medium-dark_skin_tone"),
   ([0x270c, 0x1f3fc], "victory_hand_medium-light_skin_tone"),
   ([0x270c, 0x1f3fd], "victory_hand_medium_skin_tone"), ([0x1f4f9], "video_camera"),
   ([0x1f3ae], "video_game"), ([0x1f4fc], "videocassette vhs"), ([0x1f3bb], "violin"),
   ([0x1f30b], "volcano"), ([0x1f3d0], "volleyball"),
   ([0x1f596], "vulcan_salute raised_hand_with_part_between_middle_and_ring_fingers"),
   ([0x1f596, 0x1f3ff], "vulcan_salute_dark_skin_tone"),
   ([0x1f596, 0x1f3fb], "vulcan_salute_light_skin_tone"),
   ([0x1f596, 0x1f3fe], "vulcan_salute_medium-dark_skin_tone"),
   ([0x1f596, 0x1f3fc], "vulcan_salute_medium-light_skin_tone"),
   ([0x1f596, 0x1f3fd], "vulcan_salute_medium_skin_tone"), ([0x1f9c7], "waffle"),
   ([0x1f318], "waning_crescent_moon"), ([0x1f316], "waning_gibbous_moon"), ([0x26a0], "warning"),
   ([0x1f5d1], "wastebasket"), ([0x231a], "watch"), ([0x1f403], "water_buffalo"),
   ([0x1f6be], "water_closet wc"), ([0x1f30a], "water_wave ocean"), ([0x1f349], "watermelon"),
   ([0x1f44b], "waving_hand wave"), ([0x1f44b, 0x1f3ff], "waving_hand_dark_skin_tone"),
   ([0x1f44b, 0x1f3fb], "waving_hand_light_skin_tone"),
   ([0x1f44b, 0x1f3fe], "waving_hand_medium-dark_skin_tone"),
   ([0x1f44b, 0x1f3fc], "waving_hand_medium-light_skin_tone"),
   ([0x1f44b, 0x1f3fd], "waving_hand_medium_skin_tone"), ([0x3030], "wavy_dash"),
   ([0x1f312], "waxing_crescent_moon"), ([0x1f314], "waxing_gibbous_moon moon"),
   ([0x1f640], "weary_cat_face scream_cat"), ([0x1f629], "weary_face weary"),
   ([0x1f492], "wedding"), ([0x2638], "wheel_of_dharma"),
   ([0x267f], "wheelchair_symbol wheelchair"), ([0x26aa], "white_circle"),
   ([0x2755], "white_exclamation_mark grey_exclamation"),
   ([0x1f3f3], "white_flag waving_white_flag"), ([0x1f4ae], "white_flower"),
   ([0x1f9b3], "white_hair"), ([0x1f468, 0x200d, 0x1f9b3], "white-haired_man"),
   ([0x1f469, 0x200d, 0x1f9b3], "white-haired_woman"), ([0x1f90d], "white_heart"),
   ([0x2705], "white_heavy_check_mark white_check_mark"), ([0x2b1c], "white_large_square"),
   ([0x25fd], "white_medium-small_square white_medium_small_square"),
   ([0x25fb], "white_medium_square"), ([0x2b50], "white_medium_star star"),
   ([0x2754], "white_question_mark grey_question"), ([0x25ab], "white_small_square"),
   ([0x1f533], "white_square_button"), ([0x1f940], "wilted_flower"), ([0x1f390], "wind_chime"),
   ([0x1f32c], "wind_face wind_blowing_face"), ([0x1f377], "wine_glass"),
   ([0x1f609], "winking_face wink"),
   ([0x1f61c], "winking_face_with_tongue stuck_out_tongue_winking_eye"),
   ([0x1f43a], "wolf_face wolf"), ([0x1f469], "woman"),
   ([0x1f469, 0x200d, 0x1f3a8], "woman_artist"),
   ([0x1f469, 0x1f3ff, 0x200d, 0x1f3a8], "woman_artist_dark_skin_tone"),
   ([0x1f469, 0x1f3fb, 0x200d, 0x1f3a8], "woman_artist_light_skin_tone"),
   ([0x1f469, 0x1f3fe, 0x200d, 0x1f3a8], "woman_artist_medium-dark_skin_tone"),
   ([0x1f469, 0x1f3fc, 0x200d, 0x1f3a8], "woman_artist_medium-light_skin_tone"),
   ([0x1f469, 0x1f3fd, 0x200d, 0x1f3a8], "woman_artist_medium_skin_tone"),
   ([0x1f469, 0x200d, 0x1f680], "woman_astronaut"),
   ([0x1f469, 0x1f3ff, 0x200d, 0x1f680], "woman_astronaut_dark_skin_tone"),
   ([0x1f469, 0x1f3fb, 0x200d, 0x1f680], "woman_astronaut_light_skin_tone"),
   ([0x1f469, 0x1f3fe, 0x200d, 0x1f680], "woman_astronaut_medium-dark_skin_tone"),
   ([0x1f469, 0x1f3fc, 0x200d, 0x1f680], "woman_astronaut_medium-light_skin_tone"),
   ([0x1f469, 0x1f3fd, 0x200d, 0x1f680], "woman_astronaut_medium_skin_tone"),
   ([0x1f6b4, 0x200d, 0x2640, 0xfe0f], "woman_biking"),
   ([0x1f6b4, 0x1f3ff, 0x200d, 0x2640, 0xfe0f], "woman_biking_dark_skin_tone"),
   ([0x1f6b4, 0x1f3fb, 0x200d, 0x2640, 0xfe0f], "woman_biking_light_skin_tone"),
   ([0x1f6b4, 0x1f3fe, 0x200d, 0x2640, 0xfe0f], "woman_biking_medium-dark_skin_tone"),
   ([0x1f6b4, 0x1f3fc, 0x200d, 0x2640, 0xfe0f], "woman_biking_medium-light_skin_tone"),
   ([0x1f6b4, 0x1f3fd, 0x200d, 0x2640, 0xfe0f], "woman_biking_medium_skin_tone"),
   ([0x26f9, 0xfe0f, 0x200d, 0x2640, 0xfe0f], "woman_bouncing_ball"),
   ([0x26f9, 0x1f3ff, 0x200d, 0x2640, 0xfe0f], "woman_bouncing_ball_dark_skin_tone"),
   ([0x26f9, 0x1f3fb, 0x200d, 0x2640, 0xfe0f], "woman_bouncing_ball_light_skin_tone"),
   ([0x26f9, 0x1f3fe, 0x200d, 0x2640, 0xfe0f], "woman_bouncing_ball_medium-dark_skin_tone"),
   ([0x26f9, 0x1f3fc, 0x200d, 0x2640, 0xfe0f], "woman_bouncing_ball_medium-light_skin_tone"),
   ([0x26f9, 0x1f3fd, 0x200d, 0x2640, 0xfe0f], "woman_bouncing_ball_medium_skin_tone"),
   ([0x1f647, 0x200d, 0x2640, 0xfe0f], "woman_bowing"),
   ([0x1f647, 0x1f3ff, 0x200d, 0x2640, 0xfe0f], "woman_bowing_dark_skin_tone"),
   ([0x1f647, 0x1f3fb, 0x200d, 0x2640, 0xfe0f], "woman_bowing_light_skin_tone"),
   ([0x1f647, 0x1f3fe, 0x200d, 0x2640, 0xfe0f], "woman_bowing_medium-dark_skin_tone"),
   ([0x1f647, 0x1f3fc, 0x200d, 0x2640, 0xfe0f], "woman_bowing_medium-light_skin_tone"),
   ([0x1f647, 0x1f3fd, 0x200d, 0x2640, 0xfe0f], "woman_bowing_medium_skin_tone"),
   ([0x1f938, 0x200d, 0x2640, 0xfe0f], "woman_cartwheeling"),
   ([0x1f938, 0x1f3ff, 0x200d, 0x2640, 0xfe0f], "woman_cartwheeling_dark_skin_tone"),
   ([0x1f938, 0x1f3fb, 0x200d, 0x2640, 0xfe0f], "woman_cartwheeling_light_skin_tone"),
   ([0x1f938, 0x1f3fe, 0x200d, 0x2640, 0xfe0f], "woman_cartwheeling_medium-dark_skin_tone"),
   ([0x1f938, 0x1f3fc, 0x200d, 0x2640, 0xfe0f], "woman_cartwheeling_medium-light_skin_tone"),
   ([0x1f938, 0x1f3fd, 0x200d, 0x2640, 0xfe0f], "woman_cartwheeling_medium_skin_tone"),
   ([0x1f9d7, 0x200d, 0x2640, 0xfe0f], "woman_climbing"),
   ([0x1f9d7, 0x1f3ff, 0x200d, 0x2640, 0xfe0f], "woman_climbing_dark_skin_tone"),
   ([0x1f9d7, 0x1f3fb, 0x200d, 0x2640, 0xfe0f], "woman_climbing_light_skin_tone"),
   ([0x1f9d7, 0x1f3fe, 0x200d, 0x2640, 0xfe0f], "woman_climbing_medium-dark_skin_tone"),
   ([0x1f9d7, 0x1f3fc, 0x200d, 0x2640, 0xfe0f], "woman_climbing_medium-light_skin_tone"),
   ([0x1f9d7, 0x1f3fd, 0x200d, 0x2640, 0xfe0f], "woman_climbing_medium_skin_tone"),
   ([0x1f477, 0x200d, 0x2640, 0xfe0f], "woman_construction_worker"),
   ([0x1f477, 0x1f3ff, 0x200d, 0x2640, 0xfe0f], "woman_construction_worker_dark_skin_tone"),
   ([0x1f477, 0x1f3fb, 0x200d, 0x2640, 0xfe0f], "woman_construction_worker_light_skin_tone"),
   ([0x1f477, 0x1f3fe, 0x200d, 0x2640, 0xfe0f], "woman_construction_worker_medium-dark_skin_tone"),
   ([0x1f477, 0x1f3fc, 0x200d, 0x2640, 0xfe0f], "woman_construction_worker_medium-light_skin_tone"),
   ([0x1f477, 0x1f3fd, 0x200d, 0x2640, 0xfe0f], "woman_construction_worker_medium_skin_tone"),
   ([0x1f469, 0x200d, 0x1f373], "woman_cook"),
   ([0x1f469, 0x1f3ff, 0x200d, 0x1f373], "woman_cook_dark_skin_tone"),
   ([0x1f469, 0x1f3fb, 0x200d, 0x1f373], "woman_cook_light_skin_tone"),
   ([0x1f469, 0x1f3fe, 0x200d, 0x1f373], "woman_cook_medium-dark_skin_tone"),
   ([0x1f469, 0x1f3fc, 0x200d, 0x1f373], "woman_cook_medium-light_skin_tone"),
   ([0x1f469, 0x1f3fd, 0x200d, 0x1f373], "woman_cook_medium_skin_tone"),
   ([0x1f483], "woman_dancing dancer"), ([0x1f483, 0x1f3ff], "woman_dancing_dark_skin_tone"),
   ([0x1f483, 0x1f3fb], "woman_dancing_light_skin_tone"),
   ([0x1f483, 0x1f3fe], "woman_dancing_medium-dark_skin_tone"),
   ([0x1f483, 0x1f3fc], "woman_dancing_medium-light_skin_tone"),
   ([0x1f483, 0x1f3fd], "woman_dancing_medium_skin_tone"),
   ([0x1f469, 0x1f3ff], "woman_dark_skin_tone"),
   ([0x1f575, 0xfe0f, 0x200d, 0x2640, 0xfe0f], "woman_detective"),
   ([0x1f575, 0x1f3ff, 0x200d, 0x2640, 0xfe0f], "woman_detective_dark_skin_tone"),
   ([0x1f575, 0x1f3fb, 0x200d, 0x2640, 0xfe0f], "woman_detective_light_skin_tone"),
   ([0x1f575, 0x1f3fe, 0x200d, 0x2640, 0xfe0f], "woman_detective_medium-dark_skin_tone"),
   ([0x1f575, 0x1f3fc, 0x200d, 0x2640, 0xfe0f], "woman_detective_medium-light_skin_tone"),
   ([0x1f575, 0x1f3fd, 0x200d, 0x2640, 0xfe0f], "woman_detective_medium_skin_tone"),
   ([0x1f9dd, 0x200d, 0x2640, 0xfe0f], "woman_elf"),
   ([0x1f9dd, 0x1f3ff, 0x200d, 0x2640, 0xfe0f], "woman_elf_dark_skin_tone"),
   ([0x1f9dd, 0x1f3fb, 0x200d, 0x2640, 0xfe0f], "woman_elf_light_skin_tone"),
   ([0x1f9dd, 0x1f3fe, 0x200d, 0x2640, 0xfe0f], "woman_elf_medium-dark_skin_tone"),
   ([0x1f9dd, 0x1f3fc, 0x200d, 0x2640, 0xfe0f], "woman_elf_medium-light_skin_tone"),
   ([0x1f9dd, 0x1f3fd, 0x200d, 0x2640, 0xfe0f], "woman_elf_medium_skin_tone"),
   ([0x1f926, 0x200d, 0x2640, 0xfe0f], "woman_facepalming"),
   ([0x1f926, 0x1f3ff, 0x200d, 0x2640, 0xfe0f], "woman_facepalming_dark_skin_tone"),
   ([0x1f926, 0x1f3fb, 0x200d, 0x2640, 0xfe0f], "woman_facepalming_light_skin_tone"),
   ([0x1f926, 0x1f3fe, 0x200d, 0x2640, 0xfe0f], "woman_facepalming_medium-dark_skin_tone"),
   ([0x1f926, 0x1f3fc, 0x200d, 0x2640, 0xfe0f], "woman_facepalming_medium-light_skin_tone"),
   ([0x1f926, 0x1f3fd, 0x200d, 0x2640, 0xfe0f], "woman_facepalming_medium_skin_tone"),
   ([0x1f469, 0x200d, 0x1f3ed], "woman_factory_worker"),
   ([0x1f469, 0x1f3ff, 0x200d, 0x1f3ed], "woman_factory_worker_dark_skin_tone"),
   ([0x1f469, 0x1f3fb, 0x200d, 0x1f3ed], "woman_factory_worker_light_skin_tone"),
   ([0x1f469, 0x1f3fe, 0x200d, 0x1f3ed], "woman_factory_worker_medium-dark_skin_tone"),
   ([0x1f469, 0x1f3fc, 0x200d, 0x1f3ed], "woman_factory_worker_medium-light_skin_tone"),
   ([0x1f469, 0x1f3fd, 0x200d, 0x1f3ed], "woman_factory_worker_medium_skin_tone"),
   ([0x1f9da, 0x200d, 0x2640, 0xfe0f], "woman_fairy"),
   ([0x1f9da, 0x1f3ff, 0x200d, 0x2640, 0xfe0f], "woman_fairy_dark_skin_tone"),
   ([0x1f9da, 0x1f3fb, 0x200d, 0x2640, 0xfe0f], "woman_fairy_light_skin_tone"),
   ([0x1f9da, 0x1f3fe, 0x200d, 0x2640, 0xfe0f], "woman_fairy_medium-dark_skin_tone"),
   ([0x1f9da, 0x1f3fc, 0x200d, 0x2640, 0xfe0f], "woman_fairy_medium-light_skin_tone"),
   ([0x1f9da, 0x1f3fd, 0x200d, 0x2640, 0xfe0f], "woman_fairy_medium_skin_tone"),
   ([0x1f469, 0x200d, 0x1f33e], "woman_farmer"),
   ([0x1f469, 0x1f3ff, 0x200d, 0x1f33e], "woman_farmer_dark_skin_tone"),
   ([0x1f469, 0x1f3fb, 0x200d, 0x1f33e], "woman_farmer_light_skin_tone"),
   ([0x1f469, 0x1f3fe, 0x200d, 0x1f33e], "woman_farmer_medium-dark_skin_tone"),
   ([0x1f469, 0x1f3fc, 0x200d, 0x1f33e], "woman_farmer_medium-light_skin_tone"),
   ([0x1f469, 0x1f3fd, 0x200d, 0x1f33e], "woman_farmer_medium_skin_tone"),
   ([0x1f469, 0x200d, 0x1f692], "woman_firefighter"),
   ([0x1f469, 0x1f3ff, 0x200d, 0x1f692], "woman_firefighter_dark_skin_tone"),
   ([0x1f469, 0x1f3fb, 0x200d, 0x1f692], "woman_firefighter_light_skin_tone"),
   ([0x1f469, 0x1f3fe, 0x200d, 0x1f692], "woman_firefighter_medium-dark_skin_tone"),
   ([0x1f469, 0x1f3fc, 0x200d, 0x1f692], "woman_firefighter_medium-light_skin_tone"),
   ([0x1f469, 0x1f3fd, 0x200d, 0x1f692], "woman_firefighter_medium_skin_tone"),
   ([0x1f64d, 0x200d, 0x2640, 0xfe0f], "woman_frowning"),
   ([0x1f64d, 0x1f3ff, 0x200d, 0x2640, 0xfe0f], "woman_frowning_dark_skin_tone"),
   ([0x1f64d, 0x1f3fb, 0x200d, 0x2640, 0xfe0f], "woman_frowning_light_skin_tone"),
   ([0x1f64d, 0x1f3fe, 0x200d, 0x2640, 0xfe0f], "woman_frowning_medium-dark_skin_tone"),
   ([0x1f64d, 0x1f3fc, 0x200d, 0x2640, 0xfe0f], "woman_frowning_medium-light_skin_tone"),
   ([0x1f64d, 0x1f3fd, 0x200d, 0x2640, 0xfe0f], "woman_frowning_medium_skin_tone"),
   ([0x1f9de, 0x200d, 0x2640, 0xfe0f], "woman_genie"),
   ([0x1f645, 0x200d, 0x2640, 0xfe0f], "woman_gesturing_no"),
   ([0x1f645, 0x1f3ff, 0x200d, 0x2640, 0xfe0f], "woman_gesturing_no_dark_skin_tone"),
   ([0x1f645, 0x1f3fb, 0x200d, 0x2640, 0xfe0f], "woman_gesturing_no_light_skin_tone"),
   ([0x1f645, 0x1f3fe, 0x200d, 0x2640, 0xfe0f], "woman_gesturing_no_medium-dark_skin_tone"),
   ([0x1f645, 0x1f3fc, 0x200d, 0x2640, 0xfe0f], "woman_gesturing_no_medium-light_skin_tone"),
   ([0x1f645, 0x1f3fd, 0x200d, 0x2640, 0xfe0f], "woman_gesturing_no_medium_skin_tone"),
   ([0x1f646, 0x200d, 0x2640, 0xfe0f], "woman_gesturing_ok"),
   ([0x1f646, 0x1f3ff, 0x200d, 0x2640, 0xfe0f], "woman_gesturing_ok_dark_skin_tone"),
   ([0x1f646, 0x1f3fb, 0x200d, 0x2640, 0xfe0f], "woman_gesturing_ok_light_skin_tone"),
   ([0x1f646, 0x1f3fe, 0x200d, 0x2640, 0xfe0f], "woman_gesturing_ok_medium-dark_skin_tone"),
   ([0x1f646, 0x1f3fc, 0x200d, 0x2640, 0xfe0f], "woman_gesturing_ok_medium-light_skin_tone"),
   ([0x1f646, 0x1f3fd, 0x200d, 0x2640, 0xfe0f], "woman_gesturing_ok_medium_skin_tone"),
   ([0x1f487, 0x200d, 0x2640, 0xfe0f], "woman_getting_haircut"),
   ([0x1f487, 0x1f3ff, 0x200d, 0x2640, 0xfe0f], "woman_getting_haircut_dark_skin_tone"),
   ([0x1f487, 0x1f3fb, 0x200d, 0x2640, 0xfe0f], "woman_getting_haircut_light_skin_tone"),
   ([0x1f487, 0x1f3fe, 0x200d, 0x2640, 0xfe0f], "woman_getting_haircut_medium-dark_skin_tone"),
   ([0x1f487, 0x1f3fc, 0x200d, 0x2640, 0xfe0f], "woman_getting_haircut_medium-light_skin_tone"),
   ([0x1f487, 0x1f3fd, 0x200d, 0x2640, 0xfe0f], "woman_getting_haircut_medium_skin_tone"),
   ([0x1f486, 0x200d, 0x2640, 0xfe0f], "woman_getting_massage"),
   ([0x1f486, 0x1f3ff, 0x200d, 0x2640, 0xfe0f], "woman_getting_massage_dark_skin_tone"),
   ([0x1f486, 0x1f3fb, 0x200d, 0x2640, 0xfe0f], "woman_getting_massage_light_skin_tone"),
   ([0x1f486, 0x1f3fe, 0x200d, 0x2640, 0xfe0f], "woman_getting_massage_medium-dark_skin_tone"),
   ([0x1f486, 0x1f3fc, 0x200d, 0x2640, 0xfe0f], "woman_getting_massage_medium-light_skin_tone"),
   ([0x1f486, 0x1f3fd, 0x200d, 0x2640, 0xfe0f], "woman_getting_massage_medium_skin_tone"),
   ([0x1f3cc, 0xfe0f, 0x200d, 0x2640, 0xfe0f], "woman_golfing"),
   ([0x1f3cc, 0x1f3ff, 0x200d, 0x2640, 0xfe0f], "woman_golfing_dark_skin_tone"),
   ([0x1f3cc, 0x1f3fb, 0x200d, 0x2640, 0xfe0f], "woman_golfing_light_skin_tone"),
   ([0x1f3cc, 0x1f3fe, 0x200d, 0x2640, 0xfe0f], "woman_golfing_medium-dark_skin_tone"),
   ([0x1f3cc, 0x1f3fc, 0x200d, 0x2640, 0xfe0f], "woman_golfing_medium-light_skin_tone"),
   ([0x1f3cc, 0x1f3fd, 0x200d, 0x2640, 0xfe0f], "woman_golfing_medium_skin_tone"),
   ([0x1f482, 0x200d, 0x2640, 0xfe0f], "woman_guard"),
   ([0x1f482, 0x1f3ff, 0x200d, 0x2640, 0xfe0f], "woman_guard_dark_skin_tone"),
   ([0x1f482, 0x1f3fb, 0x200d, 0x2640, 0xfe0f], "woman_guard_light_skin_tone"),
   ([0x1f482, 0x1f3fe, 0x200d, 0x2640, 0xfe0f], "woman_guard_medium-dark_skin_tone"),
   ([0x1f482, 0x1f3fc, 0x200d, 0x2640, 0xfe0f], "woman_guard_medium-light_skin_tone"),
   ([0x1f482, 0x1f3fd, 0x200d, 0x2640, 0xfe0f], "woman_guard_medium_skin_tone"),
   ([0x1f469, 0x200d, 0x2695, 0xfe0f], "woman_health_worker"),
   ([0x1f469, 0x1f3ff, 0x200d, 0x2695, 0xfe0f], "woman_health_worker_dark_skin_tone"),
   ([0x1f469, 0x1f3fb, 0x200d, 0x2695, 0xfe0f], "woman_health_worker_light_skin_tone"),
   ([0x1f469, 0x1f3fe, 0x200d, 0x2695, 0xfe0f], "woman_health_worker_medium-dark_skin_tone"),
   ([0x1f469, 0x1f3fc, 0x200d, 0x2695, 0xfe0f], "woman_health_worker_medium-light_skin_tone"),
   ([0x1f469, 0x1f3fd, 0x200d, 0x2695, 0xfe0f], "woman_health_worker_medium_skin_tone"),
   ([0x1f9d8, 0x200d, 0x2640, 0xfe0f], "woman_in_lotus_position"),
   ([0x1f9d8, 0x1f3ff, 0x200d, 0x2640, 0xfe0f], "woman_in_lotus_position_dark_skin_tone"),
   ([0x1f9d8, 0x1f3fb, 0x200d, 0x2640, 0xfe0f], "woman_in_lotus_position_light_skin_tone"),
   ([0x1f9d8, 0x1f3fe, 0x200d, 0x2640, 0xfe0f], "woman_in_lotus_position_medium-dark_skin_tone"),
   ([0x1f9d8, 0x1f3fc, 0x200d, 0x2640, 0xfe0f], "woman_in_lotus_position_medium-light_skin_tone"),
   ([0x1f9d8, 0x1f3fd, 0x200d, 0x2640, 0xfe0f], "woman_in_lotus_position_medium_skin_tone"),
   ([0x1f469, 0x200d, 0x1f9bd], "woman_in_manual_wheelchair"),
   ([0x1f469, 0x200d, 0x1f9bc], "woman_in_motorized_wheelchair"),
   ([0x1f9d6, 0x200d, 0x2640, 0xfe0f], "woman_in_steamy_room"),
   ([0x1f9d6, 0x1f3ff, 0x200d, 0x2640, 0xfe0f], "woman_in_steamy_room_dark_skin_tone"),
   ([0x1f9d6, 0x1f3fb, 0x200d, 0x2640, 0xfe0f], "woman_in_steamy_room_light_skin_tone"),
   ([0x1f9d6, 0x1f3fe, 0x200d, 0x2640, 0xfe0f], "woman_in_steamy_room_medium-dark_skin_tone"),
   ([0x1f9d6, 0x1f3fc, 0x200d, 0x2640, 0xfe0f], "woman_in_steamy_room_medium-light_skin_tone"),
   ([0x1f9d6, 0x1f3fd, 0x200d, 0x2640, 0xfe0f], "woman_in_steamy_room_medium_skin_tone"),
   ([0x1f469, 0x200d, 0x2696, 0xfe0f], "woman_judge"),
   ([0x1f469, 0x1f3ff, 0x200d, 0x2696, 0xfe0f], "woman_judge_dark_skin_tone"),
   ([0x1f469, 0x1f3fb, 0x200d, 0x2696, 0xfe0f], "woman_judge_light_skin_tone"),
   ([0x1f469, 0x1f3fe, 0x200d, 0x2696, 0xfe0f], "woman_judge_medium-dark_skin_tone"),
   ([0x1f469, 0x1f3fc, 0x200d, 0x2696, 0xfe0f], "woman_judge_medium-light_skin_tone"),
   ([0x1f469, 0x1f3fd, 0x200d, 0x2696, 0xfe0f], "woman_judge_medium_skin_tone"),
   ([0x1f939, 0x200d, 0x2640, 0xfe0f], "woman_juggling"),
   ([0x1f939, 0x1f3ff, 0x200d, 0x2640, 0xfe0f], "woman_juggling_dark_skin_tone"),
   ([0x1f939, 0x1f3fb, 0x200d, 0x2640, 0xfe0f], "woman_juggling_light_skin_tone"),
   ([0x1f939, 0x1f3fe, 0x200d, 0x2640, 0xfe0f], "woman_juggling_medium-dark_skin_tone"),
   ([0x1f939, 0x1f3fc, 0x200d, 0x2640, 0xfe0f], "woman_juggling_medium-light_skin_tone"),
   ([0x1f939, 0x1f3fd, 0x200d, 0x2640, 0xfe0f], "woman_juggling_medium_skin_tone"),
   ([0x1f3cb, 0xfe0f, 0x200d, 0x2640, 0xfe0f], "woman_lifting_weights"),
   ([0x1f3cb, 0x1f3ff, 0x200d, 0x2640, 0xfe0f], "woman_lifting_weights_dark_skin_tone"),
   ([0x1f3cb, 0x1f3fb, 0x200d, 0x2640, 0xfe0f], "woman_lifting_weights_light_skin_tone"),
   ([0x1f3cb, 0x1f3fe, 0x200d, 0x2640, 0xfe0f], "woman_lifting_weights_medium-dark_skin_tone"),
   ([0x1f3cb, 0x1f3fc, 0x200d, 0x2640, 0xfe0f], "woman_lifting_weights_medium-light_skin_tone"),
   ([0x1f3cb, 0x1f3fd, 0x200d, 0x2640, 0xfe0f], "woman_lifting_weights_medium_skin_tone"),
   ([0x1f469, 0x1f3fb], "woman_light_skin_tone"), ([0x1f9d9, 0x200d, 0x2640, 0xfe0f], "woman_mage"),
   ([0x1f9d9, 0x1f3ff, 0x200d, 0x2640, 0xfe0f], "woman_mage_dark_skin_tone"),
   ([0x1f9d9, 0x1f3fb, 0x200d, 0x2640, 0xfe0f], "woman_mage_light_skin_tone"),
   ([0x1f9d9, 0x1f3fe, 0x200d, 0x2640, 0xfe0f], "woman_mage_medium-dark_skin_tone"),
   ([0x1f9d9, 0x1f3fc, 0x200d, 0x2640, 0xfe0f], "woman_mage_medium-light_skin_tone"),
   ([0x1f9d9, 0x1f3fd, 0x200d, 0x2640, 0xfe0f], "woman_mage_medium_skin_tone"),
   ([0x1f469, 0x200d, 0x1f527], "woman_mechanic"),
   ([0x1f469, 0x1f3ff, 0x200d, 0x1f527], "woman_mechanic_dark_skin_tone"),
   ([0x1f469, 0x1f3fb, 0x200d, 0x1f527], "woman_mechanic_light_skin_tone"),
   ([0x1f469, 0x1f3fe, 0x200d, 0x1f527], "woman_mechanic_medium-dark_skin_tone"),
   ([0x1f469, 0x1f3fc, 0x200d, 0x1f527], "woman_mechanic_medium-light_skin_tone"),
   ([0x1f469, 0x1f3fd, 0x200d, 0x1f527], "woman_mechanic_medium_skin_tone"),
   ([0x1f469, 0x1f3fe], "woman_medium-dark_skin_tone"),
   ([0x1f469, 0x1f3fc], "woman_medium-light_skin_tone"),
   ([0x1f469, 0x1f3fd], "woman_medium_skin_tone"),
   ([0x1f6b5, 0x200d, 0x2640, 0xfe0f], "woman_mountain_biking"),
   ([0x1f6b5, 0x1f3ff, 0x200d, 0x2640, 0xfe0f], "woman_mountain_biking_dark_skin_tone"),
   ([0x1f6b5, 0x1f3fb, 0x200d, 0x2640, 0xfe0f], "woman_mountain_biking_light_skin_tone"),
   ([0x1f6b5, 0x1f3fe, 0x200d, 0x2640, 0xfe0f], "woman_mountain_biking_medium-dark_skin_tone"),
   ([0x1f6b5, 0x1f3fc, 0x200d, 0x2640, 0xfe0f], "woman_mountain_biking_medium-light_skin_tone"),
   ([0x1f6b5, 0x1f3fd, 0x200d, 0x2640, 0xfe0f], "woman_mountain_biking_medium_skin_tone"),
   ([0x1f469, 0x200d, 0x1f4bc], "woman_office_worker"),
   ([0x1f469, 0x1f3ff, 0x200d, 0x1f4bc], "woman_office_worker_dark_skin_tone"),
   ([0x1f469, 0x1f3fb, 0x200d, 0x1f4bc], "woman_office_worker_light_skin_tone"),
   ([0x1f469, 0x1f3fe, 0x200d, 0x1f4bc], "woman_office_worker_medium-dark_skin_tone"),
   ([0x1f469, 0x1f3fc, 0x200d, 0x1f4bc], "woman_office_worker_medium-light_skin_tone"),
   ([0x1f469, 0x1f3fd, 0x200d, 0x1f4bc], "woman_office_worker_medium_skin_tone"),
   ([0x1f469, 0x200d, 0x2708, 0xfe0f], "woman_pilot"),
   ([0x1f469, 0x1f3ff, 0x200d, 0x2708, 0xfe0f], "woman_pilot_dark_skin_tone"),
   ([0x1f469, 0x1f3fb, 0x200d, 0x2708, 0xfe0f], "woman_pilot_light_skin_tone"),
   ([0x1f469, 0x1f3fe, 0x200d, 0x2708, 0xfe0f], "woman_pilot_medium-dark_skin_tone"),
   ([0x1f469, 0x1f3fc, 0x200d, 0x2708, 0xfe0f], "woman_pilot_medium-light_skin_tone"),
   ([0x1f469, 0x1f3fd, 0x200d, 0x2708, 0xfe0f], "woman_pilot_medium_skin_tone"),
   ([0x1f93e, 0x200d, 0x2640, 0xfe0f], "woman_playing_handball"),
   ([0x1f93e, 0x1f3ff, 0x200d, 0x2640, 0xfe0f], "woman_playing_handball_dark_skin_tone"),
   ([0x1f93e, 0x1f3fb, 0x200d, 0x2640, 0xfe0f], "woman_playing_handball_light_skin_tone"),
   ([0x1f93e, 0x1f3fe, 0x200d, 0x2640, 0xfe0f], "woman_playing_handball_medium-dark_skin_tone"),
   ([0x1f93e, 0x1f3fc, 0x200d, 0x2640, 0xfe0f], "woman_playing_handball_medium-light_skin_tone"),
   ([0x1f93e, 0x1f3fd, 0x200d, 0x2640, 0xfe0f], "woman_playing_handball_medium_skin_tone"),
   ([0x1f93d, 0x200d, 0x2640, 0xfe0f], "woman_playing_water_polo"),
   ([0x1f93d, 0x1f3ff, 0x200d, 0x2640, 0xfe0f], "woman_playing_water_polo_dark_skin_tone"),
   ([0x1f93d, 0x1f3fb, 0x200d, 0x2640, 0xfe0f], "woman_playing_water_polo_light_skin_tone"),
   ([0x1f93d, 0x1f3fe, 0x200d, 0x2640, 0xfe0f], "woman_playing_water_polo_medium-dark_skin_tone"),
   ([0x1f93d, 0x1f3fc, 0x200d, 0x2640, 0xfe0f], "woman_playing_water_polo_medium-light_skin_tone"),
   ([0x1f93d, 0x1f3fd, 0x200d, 0x2640, 0xfe0f], "woman_playing_water_polo_medium_skin_tone"),
   ([0x1f46e, 0x200d, 0x2640, 0xfe0f], "woman_police_officer"),
   ([0x1f46e, 0x1f3ff, 0x200d, 0x2640, 0xfe0f], "woman_police_officer_dark_skin_tone"),
   ([0x1f46e, 0x1f3fb, 0x200d, 0x2640, 0xfe0f], "woman_police_officer_light_skin_tone"),
   ([0x1f46e, 0x1f3fe, 0x200d, 0x2640, 0xfe0f], "woman_police_officer_medium-dark_skin_tone"),
   ([0x1f46e, 0x1f3fc, 0x200d, 0x2640, 0xfe0f], "woman_police_officer_medium-light_skin_tone"),
   ([0x1f46e, 0x1f3fd, 0x200d, 0x2640, 0xfe0f], "woman_police_officer_medium_skin_tone"),
   ([0x1f64e, 0x200d, 0x2640, 0xfe0f], "woman_pouting"),
   ([0x1f64e, 0x1f3ff, 0x200d, 0x2640, 0xfe0f], "woman_pouting_dark_skin_tone"),
   ([0x1f64e, 0x1f3fb, 0x200d, 0x2640, 0xfe0f], "woman_pouting_light_skin_tone"),
   ([0x1f64e, 0x1f3fe, 0x200d, 0x2640, 0xfe0f], "woman_pouting_medium-dark_skin_tone"),
   ([0x1f64e, 0x1f3fc, 0x200d, 0x2640, 0xfe0f], "woman_pouting_medium-light_skin_tone"),
   ([0x1f64e, 0x1f3fd, 0x200d, 0x2640, 0xfe0f], "woman_pouting_medium_skin_tone"),
   ([0x1f64b, 0x200d, 0x2640, 0xfe0f], "woman_raising_hand"),
   ([0x1f64b, 0x1f3ff, 0x200d, 0x2640, 0xfe0f], "woman_raising_hand_dark_skin_tone"),
   ([0x1f64b, 0x1f3fb, 0x200d, 0x2640, 0xfe0f], "woman_raising_hand_light_skin_tone"),
   ([0x1f64b, 0x1f3fe, 0x200d, 0x2640, 0xfe0f], "woman_raising_hand_medium-dark_skin_tone"),
   ([0x1f64b, 0x1f3fc, 0x200d, 0x2640, 0xfe0f], "woman_raising_hand_medium-light_skin_tone"),
   ([0x1f64b, 0x1f3fd, 0x200d, 0x2640, 0xfe0f], "woman_raising_hand_medium_skin_tone"),
   ([0x1f6a3, 0x200d, 0x2640, 0xfe0f], "woman_rowing_boat"),
   ([0x1f6a3, 0x1f3ff, 0x200d, 0x2640, 0xfe0f], "woman_rowing_boat_dark_skin_tone"),
   ([0x1f6a3, 0x1f3fb, 0x200d, 0x2640, 0xfe0f], "woman_rowing_boat_light_skin_tone"),
   ([0x1f6a3, 0x1f3fe, 0x200d, 0x2640, 0xfe0f], "woman_rowing_boat_medium-dark_skin_tone"),
   ([0x1f6a3, 0x1f3fc, 0x200d, 0x2640, 0xfe0f], "woman_rowing_boat_medium-light_skin_tone"),
   ([0x1f6a3, 0x1f3fd, 0x200d, 0x2640, 0xfe0f], "woman_rowing_boat_medium_skin_tone"),
   ([0x1f3c3, 0x200d, 0x2640, 0xfe0f], "woman_running"),
   ([0x1f3c3, 0x1f3ff, 0x200d, 0x2640, 0xfe0f], "woman_running_dark_skin_tone"),
   ([0x1f3c3, 0x1f3fb, 0x200d, 0x2640, 0xfe0f], "woman_running_light_skin_tone"),
   ([0x1f3c3, 0x1f3fe, 0x200d, 0x2640, 0xfe0f], "woman_running_medium-dark_skin_tone"),
   ([0x1f3c3, 0x1f3fc, 0x200d, 0x2640, 0xfe0f], "woman_running_medium-light_skin_tone"),
   ([0x1f3c3, 0x1f3fd, 0x200d, 0x2640, 0xfe0f], "woman_running_medium_skin_tone"),
   ([0x1f469, 0x200d, 0x1f52c], "woman_scientist"),
   ([0x1f469, 0x1f3ff, 0x200d, 0x1f52c], "woman_scientist_dark_skin_tone"),
   ([0x1f469, 0x1f3fb, 0x200d, 0x1f52c], "woman_scientist_light_skin_tone"),
   ([0x1f469, 0x1f3fe, 0x200d, 0x1f52c], "woman_scientist_medium-dark_skin_tone"),
   ([0x1f469, 0x1f3fc, 0x200d, 0x1f52c], "woman_scientist_medium-light_skin_tone"),
   ([0x1f469, 0x1f3fd, 0x200d, 0x1f52c], "woman_scientist_medium_skin_tone"),
   ([0x1f937, 0x200d, 0x2640, 0xfe0f], "woman_shrugging"),
   ([0x1f937, 0x1f3ff, 0x200d, 0x2640, 0xfe0f], "woman_shrugging_dark_skin_tone"),
   ([0x1f937, 0x1f3fb, 0x200d, 0x2640, 0xfe0f], "woman_shrugging_light_skin_tone"),
   ([0x1f937, 0x1f3fe, 0x200d, 0x2640, 0xfe0f], "woman_shrugging_medium-dark_skin_tone"),
   ([0x1f937, 0x1f3fc, 0x200d, 0x2640, 0xfe0f], "woman_shrugging_medium-light_skin_tone"),
   ([0x1f937, 0x1f3fd, 0x200d, 0x2640, 0xfe0f], "woman_shrugging_medium_skin_tone"),
   ([0x1f469, 0x200d, 0x1f3a4], "woman_singer"),
   ([0x1f469, 0x1f3ff, 0x200d, 0x1f3a4], "woman_singer_dark_skin_tone"),
   ([0x1f469, 0x1f3fb, 0x200d, 0x1f3a4], "woman_singer_light_skin_tone"),
   ([0x1f469, 0x1f3fe, 0x200d, 0x1f3a4], "woman_singer_medium-dark_skin_tone"),
   ([0x1f469, 0x1f3fc, 0x200d, 0x1f3a4], "woman_singer_medium-light_skin_tone"),
   ([0x1f469, 0x1f3fd, 0x200d, 0x1f3a4], "woman_singer_medium_skin_tone"),
   ([0x1f469, 0x200d, 0x1f393], "woman_student"),
   ([0x1f469, 0x1f3ff, 0x200d, 0x1f393], "woman_student_dark_skin_tone"),
   ([0x1f469, 0x1f3fb, 0x200d, 0x1f393], "woman_student_light_skin_tone"),
   ([0x1f469, 0x1f3fe, 0x200d, 0x1f393], "woman_student_medium-dark_skin_tone"),
   ([0x1f469, 0x1f3fc, 0x200d, 0x1f393], "woman_student_medium-light_skin_tone"),
   ([0x1f469, 0x1f3fd, 0x200d, 0x1f393], "woman_student_medium_skin_tone"),
   ([0x1f3c4, 0x200d, 0x2640, 0xfe0f], "woman_surfing"),
   ([0x1f3c4, 0x1f3ff, 0x200d, 0x2640, 0xfe0f], "woman_surfing_dark_skin_tone"),
   ([0x1f3c4, 0x1f3fb, 0x200d, 0x2640, 0xfe0f], "woman_surfing_light_skin_tone"),
   ([0x1f3c4, 0x1f3fe, 0x200d, 0x2640, 0xfe0f], "woman_surfing_medium-dark_skin_tone"),
   ([0x1f3c4, 0x1f3fc, 0x200d, 0x2640, 0xfe0f], "woman_surfing_medium-light_skin_tone"),
   ([0x1f3c4, 0x1f3fd, 0x200d, 0x2640, 0xfe0f], "woman_surfing_medium_skin_tone"),
   ([0x1f3ca, 0x200d, 0x2640, 0xfe0f], "woman_swimming"),
   ([0x1f3ca, 0x1f3ff, 0x200d, 0x2640, 0xfe0f], "woman_swimming_dark_skin_tone"),
   ([0x1f3ca, 0x1f3fb, 0x200d, 0x2640, 0xfe0f], "woman_swimming_light_skin_tone"),
   ([0x1f3ca, 0x1f3fe, 0x200d, 0x2640, 0xfe0f], "woman_swimming_medium-dark_skin_tone"),
   ([0x1f3ca, 0x1f3fc, 0x200d, 0x2640, 0xfe0f], "woman_swimming_medium-light_skin_tone"),
   ([0x1f3ca, 0x1f3fd, 0x200d, 0x2640, 0xfe0f], "woman_swimming_medium_skin_tone"),
   ([0x1f469, 0x200d, 0x1f3eb], "woman_teacher"),
   ([0x1f469, 0x1f3ff, 0x200d, 0x1f3eb], "woman_teacher_dark_skin_tone"),
   ([0x1f469, 0x1f3fb, 0x200d, 0x1f3eb], "woman_teacher_light_skin_tone"),
   ([0x1f469, 0x1f3fe, 0x200d, 0x1f3eb], "woman_teacher_medium-dark_skin_tone"),
   ([0x1f469, 0x1f3fc, 0x200d, 0x1f3eb], "woman_teacher_medium-light_skin_tone"),
   ([0x1f469, 0x1f3fd, 0x200d, 0x1f3eb], "woman_teacher_medium_skin_tone"),
   ([0x1f469, 0x200d, 0x1f4bb], "woman_technologist"),
   ([0x1f469, 0x1f3ff, 0x200d, 0x1f4bb], "woman_technologist_dark_skin_tone"),
   ([0x1f469, 0x1f3fb, 0x200d, 0x1f4bb], "woman_technologist_light_skin_tone"),
   ([0x1f469, 0x1f3fe, 0x200d, 0x1f4bb], "woman_technologist_medium-dark_skin_tone"),
   ([0x1f469, 0x1f3fc, 0x200d, 0x1f4bb], "woman_technologist_medium-light_skin_tone"),
   ([0x1f469, 0x1f3fd, 0x200d, 0x1f4bb], "woman_technologist_medium_skin_tone"),
   ([0x1f481, 0x200d, 0x2640, 0xfe0f], "woman_tipping_hand"),
   ([0x1f481, 0x1f3ff, 0x200d, 0x2640, 0xfe0f], "woman_tipping_hand_dark_skin_tone"),
   ([0x1f481, 0x1f3fb, 0x200d, 0x2640, 0xfe0f], "woman_tipping_hand_light_skin_tone"),
   ([0x1f481, 0x1f3fe, 0x200d, 0x2640, 0xfe0f], "woman_tipping_hand_medium-dark_skin_tone"),
   ([0x1f481, 0x1f3fc, 0x200d, 0x2640, 0xfe0f], "woman_tipping_hand_medium-light_skin_tone"),
   ([0x1f481, 0x1f3fd, 0x200d, 0x2640, 0xfe0f], "woman_tipping_hand_medium_skin_tone"),
   ([0x1f9db, 0x200d, 0x2640, 0xfe0f], "woman_vampire"),
   ([0x1f9db, 0x1f3ff, 0x200d, 0x2640, 0xfe0f], "woman_vampire_dark_skin_tone"),
   ([0x1f9db, 0x1f3fb, 0x200d, 0x2640, 0xfe0f], "woman_vampire_light_skin_tone"),
   ([0x1f9db, 0x1f3fe, 0x200d, 0x2640, 0xfe0f], "woman_vampire_medium-dark_skin_tone"),
   ([0x1f9db, 0x1f3fc, 0x200d, 0x2640, 0xfe0f], "woman_vampire_medium-light_skin_tone"),
   ([0x1f9db, 0x1f3fd, 0x200d, 0x2640, 0xfe0f], "woman_vampire_medium_skin_tone"),
   ([0x1f6b6, 0x200d, 0x2640, 0xfe0f], "woman_walking"),
   ([0x1f6b6, 0x1f3ff, 0x200d, 0x2640, 0xfe0f], "woman_walking_dark_skin_tone"),
   ([0x1f6b6, 0x1f3fb, 0x200d, 0x2640, 0xfe0f], "woman_walking_light_skin_tone"),
   ([0x1f6b6, 0x1f3fe, 0x200d, 0x2640, 0xfe0f], "woman_walking_medium-dark_skin_tone"),
   ([0x1f6b6, 0x1f3fc, 0x200d, 0x2640, 0xfe0f], "woman_walking_medium-light_skin_tone"),
   ([0x1f6b6, 0x1f3fd, 0x200d, 0x2640, 0xfe0f], "woman_walking_medium_skin_tone"),
   ([0x1f473, 0x200d, 0x2640, 0xfe0f], "woman_wearing_turban"),
   ([0x1f473, 0x1f3ff, 0x200d, 0x2640, 0xfe0f], "woman_wearing_turban_dark_skin_tone"),
   ([0x1f473, 0x1f3fb, 0x200d, 0x2640, 0xfe0f], "woman_wearing_turban_light_skin_tone"),
   ([0x1f473, 0x1f3fe, 0x200d, 0x2640, 0xfe0f], "woman_wearing_turban_medium-dark_skin_tone"),
   ([0x1f473, 0x1f3fc, 0x200d, 0x2640, 0xfe0f], "woman_wearing_turban_medium-light_skin_tone"),
   ([0x1f473, 0x1f3fd, 0x200d, 0x2640, 0xfe0f], "woman_wearing_turban_medium_skin_tone"),
   ([0x1f9d5], "woman_with_headscarf"), ([0x1f9d5, 0x1f3ff], "woman_with_headscarf_dark_skin_tone"),
   ([0x1f9d5, 0x1f3fb], "woman_with_headscarf_light_skin_tone"),
   ([0x1f9d5, 0x1f3fe], "woman_with_headscarf_medium-dark_skin_tone"),
   ([0x1f9d5, 0x1f3fc], "woman_with_headscarf_medium-light_skin_tone"),
   ([0x1f9d5, 0x1f3fd], "woman_with_headscarf_medium_skin_tone"),
   ([0x1f469, 0x200d, 0x1f9af], "woman_with_probing_cane"),
   ([0x1f9df, 0x200d, 0x2640, 0xfe0f], "woman_zombie"), ([0x1f462], "woman’s_boot boot"),
   ([0x1f45a], "woman’s_clothes womans_clothes"), ([0x1f452], "woman’s_hat womans_hat"),
   ([0x1f461], "woman’s_sandal sandal"),
   ([0x1f46f, 0x200d, 0x2640, 0xfe0f], "women_with_bunny_ears"),
   ([0x1f93c, 0x200d, 0x2640, 0xfe0f], "women_wrestling"), ([0x1f6ba], "women’s_room womens"),
   ([0x1f974], "woozy_face"), ([0x1f5fa], "world_map"), ([0x1f61f], "worried_face worried"),
   ([0x1f381], "wrapped_gift gift"), ([0x1f527], "wrench"), ([0x270d], "writing_hand"),
   ([0x270d, 0x1f3ff], "writing_hand_dark_skin_tone"),
   ([0x270d, 0x1f3fb], "writing_hand_light_skin_tone"),
   ([0x270d, 0x1f3fe], "writing_hand_medium-dark_skin_tone"),
   ([0x270d, 0x1f3fc], "writing_hand_medium-light_skin_tone"),
   ([0x270d, 0x1f3fd], "writing_hand_medium_skin_tone"), ([0x1f9f6], "yarn"),
   ([0x1f971], "yawning_face"), ([0x1f7e1], "yellow_circle"), ([0x1f49b], "yellow_heart"),
   ([0x1f7e8], "yellow_square"), ([0x1f4b4], "yen_banknote yen"), ([0x1fa80], "yo-yo"),
   ([0x262f], "yin_yang"), ([0x1f92a], "zany_face"), ([0x1f993], "zebra"),
   ([0x1f910], "zipper-mouth_face zipper__mouth_face"), ([0x1f9df], "zombie"), ([0x1f4a4], "zzz"),
   ([0x1f1e6, 0x1f1fd], "åland_islands flag_for_åland_islands"),
   ([0x2a, 0x20e3], "keycap_asterisk"), ([0x38, 0x20e3], "keycap_digit_eight"),
   ([0x35, 0x20e3], "keycap_digit_five"), ([0x34, 0x20e3], "keycap_digit_four"),
   ([0x39, 0x20e3], "keycap_digit_nine"), ([0x31, 0x20e3], "keycap_digit_one"),
   ([0x37, 0x20e3], "keycap_digit_seven"), ([0x36, 0x20e3], "keycap_digit_six"),
   ([0x33, 0x20e3], "keycap_digit_three"), ([0x32, 0x20e3], "keycap_digit_two"),
   ([0x30, 0x20e3], "keycap_digit_zero"), ([0x23, 0x20e3], "keycap_number_sign"),
   ([0x1f3fb], "light_skin_tone emoji_modifier_fitzpatrick_type__1__2"),
   ([0x1f3fc], "medium_light_skin_tone emoji_modifier_fitzpatrick_type__3"),
   ([0x1f3fd], "medium_skin_tone emoji_modifier_fitzpatrick_type__4"),
   ([0x1f3fe], "medium_dark_skin_tone emoji_modifier_fitzpatrick_type__5"),
   ([0x1f3ff], "dark_skin_tone emoji_modifier_fitzpatrick_type__6"),
   ([0x1f1e6], "regional_indicator_symbol_letter_a regional_indicator_a"),
   ([0x1f1e7], "regional_indicator_symbol_letter_b regional_indicator_b"),
   ([0x1f1e8], "regional_indicator_symbol_letter_c regional_indicator_c"),
   ([0x1f1e9], "regional_indicator_symbol_letter_d regional_indicator_d"),
   ([0x1f1ea], "regional_indicator_symbol_letter_e regional_indicator_e"),
   ([0x1f1eb], "regional_indicator_symbol_letter_f regional_indicator_f"),
   ([0x1f1ec], "regional_indicator_symbol_letter_g regional_indicator_g"),
   ([0x1f1ed], "regional_indicator_symbol_letter_h regional_indicator_h"),
   ([0x1f1ee], "regional_indicator_symbol_letter_i regional_indicator_i"),
   ([0x1f1ef], "regional_indicator_symbol_letter_j regional_indicator_j"),
   ([0x1f1f0], "regional_indicator_symbol_letter_k regional_indicator_k"),
   ([0x1f1f1], "regional_indicator_symbol_letter_l regional_indicator_l"),
   ([0x1f1f2], "regional_indicator_symbol_letter_m regional_indicator_m"),
   ([0x1f1f3], "regional_indicator_symbol_letter_n regional_indicator_n"),
   ([0x1f1f4], "regional_indicator_symbol_letter_o regional_indicator_o"),
   ([0x1f1f5], "regional_indicator_symbol_letter_p regional_indicator_p"),
   ([0x1f1f6], "regional_indicator_symbol_letter_q regional_indicator_q"),
   ([0x1f1f7], "regional_indicator_symbol_letter_r regional_indicator_r"),
   ([0x1f1f8], "regional_indicator_symbol_letter_s regional_indicator_s"),
   ([0x1f1f9], "regional_indicator_symbol_letter_t regional_indicator_t"),
   ([0x1f1fa], "regional_indicator_symbol_letter_u regional_indicator_u"),
   ([0x1f1fb], "regional_indicator_symbol_letter_v regional_indicator_v"),
   ([0x1f1fc], "regional_indicator_symbol_letter_w regional_indicator_w"),
   ([0x1f1fd], "regional_indicator_symbol_letter_x regional_indicator_x"),
   ([0x1f1fe], "regional_indicator_symbol_letter_y regional_indicator_y"),
   ([0x1f1ff], "regional_indicator_symbol_letter_z regional_indicator_z"), ([0x1f4c5], "date"),
   ([0x1f408], "cat2"), ([0x1f404], "cow2"), ([0x1f576], "dark_sunglasses"), ([0x1f415], "dog2"),
   ([0x1f42a], "dromedary_camel"), ([0x1f3e4], "european_post_office"),
   ([0x1f1ef, 0x1f1f5], "flag_for_japan"), ([0x1f1f9, 0x1f1f7], "flag_for_turkey"),
   ([0x2388], "helm_symbol"), ([0x1f40e], "racehorse"), ([0x1f48f], "couplekiss"),
   ([0x1f401], "mouse2"), ([0x270f], "pencil2"), ([0x1f416], "pig2"), ([0x1f407], "rabbit2"),
   ([0x1f405], "tiger2"), ([0x1f686], "train2"), ([0x1f40b], "whale2")]

end TypeSchema.Text.Emoji
